import Mathlib
import PluginFlow.Audit.Store
import PluginFlow.Proofs.DocumentReading
import PluginFlow.Proofs.FileTrees

/-!
Lines of an audit log. Whatever the texts of an event hold, it takes one line of a log file and is
read back from that line, so the lines behind what a file held before are the recorded events, one
by one and in order.
-/

namespace PluginFlow

open Json (Bytes Document document?)

/-! ### Entries as documents -/

namespace Audit

theorem exact_changeDocument (c : FieldChange) : (changeDocument c).Exact := by
  simp [changeDocument]

theorem Details.exact (d : Details) : d.toDocument.Exact := by
  cases d <;> simp [toDocument, exact_changeDocument]

theorem Entry.exact (e : Entry) : e.toDocument.Exact := by
  simp [toDocument, Event.members, Details.exact]

end Audit

/-! ### Texts of lines -/

namespace Json

def joinLines (parts : List Bytes) : Bytes := parts.flatMap (· ++ [10])

/-- The documents that the lines of a text hold; what stands behind the last line feed is no
line. -/
def readLines? (bs : Bytes) : Option (List Document) := (bs.splitOn 10).dropLast.mapM document?

theorem splitOn_joinLines {parts : List Bytes} (whole : ∀ part ∈ parts, 10 ∉ part) :
    (joinLines parts).splitOn 10 = parts ++ [[]] := by
  induction parts with
  | nil => rfl
  | cons part parts ih =>
    rw [List.forall_mem_cons] at whole
    have one : part.splitOn 10 = [part] := List.splitOn_eq_singleton whole.1
    rw [joinLines, List.flatMap_cons, List.append_assoc]
    change (part ++ 10 :: joinLines parts).splitOn 10 = _
    rw [List.splitOn_append_cons_self, one, ih whole.2]
    rfl

theorem mapM_document?_bytes {ds : List Document} (exact : ∀ d ∈ ds, d.Exact) :
    (ds.map Document.bytes).mapM document? = some ds := by
  induction ds with
  | nil => rfl
  | cons d ds ih =>
    rw [List.forall_mem_cons] at exact
    rw [List.map_cons, List.mapM_cons, exact.1.document?_bytes, ih exact.2]
    rfl

/-- Documents are read back from their lines. -/
theorem readLines?_joinLines {ds : List Document} (exact : ∀ d ∈ ds, d.Exact) :
    readLines? (joinLines (ds.map Document.bytes)) = some ds := by
  have whole : ∀ part ∈ ds.map Document.bytes, 10 ∉ part :=
    List.forall_mem_map.2 fun d hd => (exact d hd).inline.line_feed_not_mem
  rw [readLines?, splitOn_joinLines whole, List.dropLast_concat, mapM_document?_bytes exact]

/-- Lines behind a text that is empty or ends in a line feed are read behind those of the text. -/
theorem readLines?_append {before after : Bytes} {ds es : List Document}
    (ended : before = [] ∨ before.getLast? = some 10) (first : readLines? before = some ds)
    (second : readLines? after = some es) : readLines? (before ++ after) = some (ds ++ es) := by
  rcases ended with rfl | ended
  · cases first
    exact second
  · obtain ⟨front, rfl⟩ := List.getLast?_eq_some_iff.1 ended
    have behind : after.splitOn 10 ≠ [] := List.splitOn_ne_nil _ _
    rw [readLines?, List.splitOn_append_cons_self] at first
    rw [readLines?, List.append_assoc, List.cons_append, List.nil_append,
      List.splitOn_append_cons_self, List.dropLast_append_of_ne_nil behind, List.mapM_append]
    change (front.splitOn 10 ++ [[]]).dropLast.mapM document? = some ds at first
    rw [List.dropLast_concat] at first
    rw [readLines?] at second
    rw [first, second]
    rfl

end Json

/-! ### Log files -/

namespace Audit

namespace LogFile

/-- The bytes that a log file has taken and that have not reached its file. -/
def owed (f : LogFile) : Bytes := f.sent ++ f.held

theorem owed_flush (f : LogFile) : f.flush.owed = f.owed := List.append_nil _

theorem owed_write (f : LogFile) (piece : Bytes) : (f.write piece).owed = f.owed ++ piece := by
  unfold write owed
  dsimp only
  split_ifs with large full full
  · simp [flush]
  · -- A piece as large as the buffer fits only when nothing is held back.
    have none : f.held = [] := List.length_eq_zero_iff.1 (by omega)
    simp [none]
  · simp [flush]
  · simp

theorem path_write (f : LogFile) (piece : Bytes) : (f.write piece).path = f.path := by
  unfold write
  dsimp only
  split_ifs <;> rfl

theorem owed_record (f : LogFile) (e : Entry) :
    (f.record e).owed = f.owed ++ (line e ++ [10]) := by
  rw [record, owed_write, owed_write, List.append_assoc]

theorem path_record (f : LogFile) (e : Entry) : (f.record e).path = f.path := by
  rw [record, path_write, path_write]

end LogFile

inductive Request
  | record (e : Entry)
  | flush
  /-- The bytes that were handed on reach the file system. -/
  | deliver

def Request.recorded? : Request → Option Entry
  | record e => some e
  | _ => none

def serve (s : FileTree × Stores) : Request → FileTree × Stores
  | .record e => (s.1, (s.2.record e).2)
  | .flush => (s.1, s.2.flush.2)
  | .deliver =>
    let (delivered, t) := (Stores.deliver FileTree.store s.2.stores).run s.1
    (t, ⟨delivered.2⟩)

/-- A log file has the path, and what its file holds and what it owes to it are together the
text. -/
structure Logs (path : String) (text : Bytes) (s : FileTree × Stores) (f : LogFile) : Prop where
  only : s.2.stores = [.file f]
  path : f.path = path
  reached : ∃ bytes, s.1.read f.path = .ok bytes ∧ bytes ++ f.owed = text

def Request.text (r : Request) : Bytes :=
  Json.joinLines (r.recorded?.toList.map LogFile.line)

theorem run_deliver (f : LogFile) (t : FileTree) :
    (Stores.deliver FileTree.store [.file f]).run t =
      ((.ok (), [.file { f with sent := [] }]),
        if f.sent.isEmpty then t else t.append f.path f.sent) := by
  obtain ⟨path, held, sent⟩ := f
  cases sent <;> rfl

theorem serve_deliver (t : FileTree) (f : LogFile) :
    serve (t, ⟨[.file f]⟩) .deliver =
      (if f.sent.isEmpty then t else t.append f.path f.sent, ⟨[.file { f with sent := [] }]⟩) := by
  rw [serve, run_deliver]

/-- What was handed on is read behind what a file held. -/
theorem read_serve_deliver {t : FileTree} {f : LogFile} {bytes : Bytes}
    (read : t.read f.path = .ok bytes) :
    (serve (t, ⟨[.file f]⟩) .deliver).1.read f.path = .ok (bytes ++ f.sent) := by
  rw [serve_deliver]
  dsimp only
  split
  case isTrue none => rwa [List.isEmpty_iff.1 none, List.append_nil]
  case isFalse => exact FileTree.read_append read f.sent

/-- A request adds its own bytes to the text of a log. -/
theorem Logs.serve {path : String} {text : Bytes} {s : FileTree × Stores} {f : LogFile}
    (h : Logs path text s f) (r : Request) :
    ∃ f', Logs path (text ++ r.text) (Audit.serve s r) f' := by
  obtain ⟨t, stores⟩ := s
  obtain ⟨only, path, bytes, read, reached⟩ := h
  obtain ⟨rfl⟩ : stores = ⟨[.file f]⟩ := congrArg Stores.mk only
  cases r with
  | record e =>
    have text : (Request.record e).text = LogFile.line e ++ [10] := by
      simp [Request.text, Request.recorded?, Json.joinLines]
    refine ⟨f.record e, rfl, ?_, bytes, ?_, ?_⟩
    · rw [f.path_record, path]
    · rw [f.path_record]
      exact read
    · rw [f.owed_record, ← List.append_assoc, reached, text]
  | flush =>
    refine ⟨f.flush, rfl, path, bytes, read, ?_⟩
    rw [f.owed_flush, reached]
    exact (List.append_nil _).symm
  | deliver =>
    refine ⟨{ f with sent := [] }, by rw [serve_deliver], path, bytes ++ f.sent,
      read_serve_deliver read, ?_⟩
    rw [← reached, LogFile.owed, LogFile.owed, List.nil_append, List.append_assoc]
    exact (List.append_nil _).symm

def addedLines (requests : List Request) : Bytes :=
  Json.joinLines ((requests.filterMap Request.recorded?).map LogFile.line)

theorem addedLines_cons (r : Request) (requests : List Request) :
    addedLines (r :: requests) = r.text ++ addedLines requests := by
  unfold addedLines Request.text Json.joinLines
  rw [← List.flatMap_append, ← List.map_append]
  congr 2
  cases recorded : r.recorded? with
  | none => exact List.filterMap_cons_none recorded
  | some e => exact List.filterMap_cons_some recorded

/-- Requests add their lines to the text of a log, one after the other. -/
theorem Logs.serveAll {path : String} {text : Bytes} {s : FileTree × Stores} {f : LogFile}
    (h : Logs path text s f) (requests : List Request) :
    ∃ f', Logs path (text ++ addedLines requests) (requests.foldl Audit.serve s) f' := by
  induction requests generalizing text s f with
  | nil =>
    rw [show addedLines [] = [] from rfl, List.append_nil]
    exact ⟨f, h⟩
  | cons r requests ih =>
    obtain ⟨f', next⟩ := h.serve r
    obtain ⟨f'', last⟩ := ih next
    rw [addedLines_cons, ← List.append_assoc]
    exact ⟨f'', last⟩

/-- After a flush and a delivery the file of a log holds its whole text. -/
theorem Logs.closed {path : String} {text : Bytes} {s : FileTree × Stores} {f : LogFile}
    (h : Logs path text s f) :
    ([Request.flush, .deliver].foldl Audit.serve s).1.read path = .ok text := by
  obtain ⟨t, stores⟩ := s
  obtain ⟨only, rfl, bytes, read, reached⟩ := h
  obtain ⟨rfl⟩ : stores = ⟨[.file f]⟩ := congrArg Stores.mk only
  rw [← reached]
  exact read_serve_deliver (f := f.flush) read

/-- A log file that was opened holds, after any requests with a flush and a delivery at their end,
what it held before and behind that one line for each recorded entry, in order. No line has a line
feed inside, whatever the texts of its entry hold, and the lines are read back as exactly the
documents of the entries, also behind lines that were there before. -/
theorem log_keeps_entries {t t' : FileTree} {path : String}
    (opened : (FileTree.store.openLog path).run t = (.ok (), t')) :
    ∃ previous, (∀ bytes, t.read path = .ok bytes → bytes = previous) ∧
      t'.read path = .ok previous ∧
      ∀ requests : List Request,
        let entries := requests.filterMap Request.recorded?
        let lines := entries.map LogFile.line
        ((requests ++ [Request.flush, Request.deliver]).foldl serve
            (t', ⟨[.file { path := path }]⟩)).1.read path =
              .ok (previous ++ lines.flatMap (· ++ [10])) ∧
          (∀ line ∈ lines, 10 ∉ line) ∧
          (lines.flatMap (· ++ [10])).splitOn 10 = lines ++ [[]] ∧
          lines.mapM document? = some (entries.map Entry.toDocument) ∧
          ∀ before, (previous = [] ∨ previous.getLast? = some 10) →
            Json.readLines? previous = some before →
            Json.readLines? (previous ++ lines.flatMap (· ++ [10])) =
              some (before ++ entries.map Entry.toDocument) := by
  obtain ⟨previous, read, stays⟩ := FileTree.exists_previous_of_openLog opened
  refine ⟨previous, stays, read, fun requests => ?_⟩
  intro entries lines
  have whole : ∀ line ∈ lines, 10 ∉ line :=
    List.forall_mem_map.2 fun e _ => e.exact.inline.line_feed_not_mem
  have documents : lines = (entries.map Entry.toDocument).map Document.bytes := by
    rw [List.map_map]
    rfl
  have exact : ∀ d ∈ entries.map Entry.toDocument, d.Exact :=
    List.forall_mem_map.2 fun e _ => e.exact
  refine ⟨?file, whole, Json.splitOn_joinLines whole, ?read, fun before ended first => ?lines⟩
  case file =>
    have start : Logs path previous (t', ⟨[.file { path := path }]⟩) { path := path } :=
      ⟨rfl, rfl, previous, read, List.append_nil _⟩
    obtain ⟨f, logs⟩ := start.serveAll requests
    rw [List.foldl_append]
    exact logs.closed
  case read =>
    rw [documents]
    exact Json.mapM_document?_bytes exact
  case lines =>
    have behind := Json.readLines?_joinLines exact
    rw [← documents] at behind
    exact Json.readLines?_append ended first behind

def logged : FileTree := { entries := .ofList [("/log", .file [123, 125, 10])] }

/-- An entry whose texts look like the end of its line and another line behind it. -/
def forging : Entry :=
  ⟨"2024-05-01T12:00:00.000Z",
    .policyBlocked "shop\"\n\x7b\x7d\n" "fetch" "10.0.0.1\r\n" "private \"network\""⟩

theorem logged_keeps_forging :
    ∃ bytes, ([Request.record forging, .flush, .deliver].foldl serve
        (logged, ⟨[.file { path := "log" }]⟩)).1.read "log" = .ok bytes ∧
      Json.readLines? bytes = some [.object [], forging.toDocument] := by
  have opened : (FileTree.store.openLog "log").run logged = (.ok (), logged) := by cbv
  have held : logged.read "log" = .ok [123, 125, 10] := by cbv
  have first : Json.readLines? [123, 125, 10] = some [.object []] := by cbv
  obtain ⟨previous, stays, -, added⟩ := log_keeps_entries opened
  obtain rfl := stays _ held
  obtain ⟨read, -, -, -, lines⟩ := added [.record forging]
  exact ⟨_, read, lines [.object []] (.inr rfl) first⟩

end Audit
end PluginFlow
