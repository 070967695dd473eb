import PluginFlow.Proofs.Trail

/-!
What traces show. Under a key whose name is sensitive, and under the key in which the traced node
itself keeps a body or an image, a trace shows nothing but the marker. The key of an earlier node is
not hidden by that alone.
-/

namespace PluginFlow

def FieldChange.Hidden (ch : FieldChange) : Prop :=
  (∀ shown ∈ ch.before, shown = Redactor.redacted) ∧ ∀ shown ∈ ch.after, shown = Redactor.redacted

instance (ch : FieldChange) : Decidable ch.Hidden := inferInstanceAs (Decidable (_ ∧ _))

namespace Redactor

/-- A key is sensitive by its name: it contains one of the sensitive parts in some ASCII case. -/
def NameSensitive (key : String) : Prop :=
  ∃ part ∈ sensitiveParts, ∃ before after, (Text.lower key).toList = before ++ part.toList ++ after

theorem isSensitive_iff {r : Redactor} {key : String} :
    r.isSensitive key = true ↔ key ∈ r.sensitiveKeys ∨ NameSensitive key := by
  simp only [isSensitive, Bool.or_eq_true, decide_eq_true_eq, List.any_eq_true, Text.contains,
    Text.occursIn_iff, NameSensitive]

theorem redactWith_of_sensitive {r : Redactor} {extra : List String} {key : String}
    (h : key ∈ extra ∨ r.isSensitive key = true) (v : Value) :
    r.redactWith extra key v = redacted := by
  unfold redactWith
  split
  · rfl
  · rename_i ordinary
    rw [redact, if_pos (h.resolve_left ordinary)]

/-- Under a key that is not sensitive the text itself is shown, cut at the greatest length. -/
theorem redactWith_of_ordinary {r : Redactor} {extra : List String} {key : String}
    (h : key ∉ extra) (hs : ¬ r.isSensitive key = true) (v : Value) :
    r.redactWith extra key v = r.truncate v.toText := by
  rw [redactWith, if_neg h, redact, if_neg hs]

theorem mem_diff {r : Redactor} {before after : KeyMap Value} {extra : List String}
    {ch : FieldChange} (h : ch ∈ r.diff before after extra) :
    ch.before = (before.get? ch.key).map (r.redactWith extra ch.key) ∧
      ch.after = (after.get? ch.key).map (r.redactWith extra ch.key) := by
  obtain ⟨k, -, rfl⟩ := List.mem_map.1 h
  exact ⟨rfl, rfl⟩

/-- A difference hides what stands under sensitive keys. -/
theorem hidden_of_mem_diff {r : Redactor} {before after : KeyMap Value} {extra : List String}
    {ch : FieldChange} (h : ch ∈ r.diff before after extra)
    (hs : ch.key ∈ extra ∨ r.isSensitive ch.key = true) : ch.Hidden := by
  have shown : ∀ m : KeyMap Value, ∀ text ∈ (m.get? ch.key).map (r.redactWith extra ch.key),
      text = redacted := by
    intro m text ht
    obtain ⟨v, -, rfl⟩ := Option.map_eq_some_iff.1 ht
    exact redactWith_of_sensitive hs v
  obtain ⟨hb, ha⟩ := mem_diff h
  constructor
  · rw [hb]
    exact shown before
  · rw [ha]
    exact shown after

end Redactor

namespace Dispatch

variable {σ ω : Type}

def stateChanges (e : Engine σ ω) (d : Dispatch) : List FieldChange :=
  e.redactor.diff d.turn.state d.stateAfter d.turn.sensitiveKeys

def itemChanges (e : Engine σ ω) (d : Dispatch) : List FieldChange :=
  e.redactor.diff (d.turn.firstItem?.getD .empty) (d.contextAfter.firstItem?.getD .empty)
    d.turn.sensitiveKeys

theorem traced_eq (e : Engine σ ω) (d : Dispatch) :
    d.traced e = .nodeTrace d.turn.flowId d.turn.node.id d.turn.node.type (d.stateChanges e)
      (d.itemChanges e) := rfl

/-- Of the events of a turn only its trace is one. -/
theorem filter_recorded {e : Engine σ ω} {d : Dispatch} (h : d.Possible) :
    (d.recorded e).filter (·.type = .nodeTrace) =
      if e.settings.traceNodes then [d.traced e] else [] := by
  have quiet : d.noted.filter (·.type = .nodeTrace) = [] := by
    unfold noted
    cases hr : d.result with
    | error fault => rfl
    | ok o =>
      rcases d.turn.plan_attributed o (h o hr) with none | ⟨ev, attributed, one⟩
      · simp [none]
      · simp [one, attributed.type_ne]
  rw [recorded, List.filter_append, quiet, List.nil_append]
  split
  · rfl
  · rfl

theorem filter_flatMap_recorded {e : Engine σ ω} {ds : List Dispatch}
    (h : ∀ d ∈ ds, d.Possible) :
    (ds.flatMap (recorded e)).filter (·.type = .nodeTrace) =
      if e.settings.traceNodes then ds.map (traced e) else [] := by
  induction ds with
  | nil => simp
  | cons d ds ih =>
    rw [List.flatMap_cons, List.filter_append, filter_recorded (h d List.mem_cons_self),
      ih fun d hd => h d (List.mem_cons_of_mem _ hd)]
    split <;> rfl

end Dispatch

namespace Engine

variable {σ ω : Type}

theorem isSensitive_redactor (e : Engine σ ω) (key : String) :
    e.redactor.isSensitive key = true ↔ Redactor.NameSensitive key := by
  rw [Redactor.isSensitive_iff]
  exact or_iff_right List.not_mem_nil

/-- The traces of a run are those of its turns in order, if nodes are traced. A trace shows nothing
but the marker under a key with a sensitive name and under the key in which its own node keeps a
body or an image, and under all other keys the text itself, cut at the greatest length. -/
theorem execute_traces_hide (e : Engine σ ω) (f : Flow) (trigger : Trigger) (c : Context)
    (s : Session σ ω) :
    ∃ (ds : List Dispatch) (w : Walked σ ω) (events : List Audit.Event),
      e.Runs f trigger c s (ds.map (·.turn)) w ∧
      (e.execute f trigger c s).2.journal.events = s.journal.events ++ events ∧
      events.filter (·.type = .nodeTrace) =
        (if e.settings.traceNodes then
          ds.map fun d => .nodeTrace d.turn.flowId d.turn.node.id d.turn.node.type
            (d.stateChanges e) (d.itemChanges e)
        else []) ∧
      ∀ d ∈ ds, ∀ ch ∈ d.stateChanges e,
        (ch.key ∈ d.turn.sensitiveKeys ∨ Redactor.NameSensitive ch.key → ch.Hidden) ∧
        (ch.key ∉ d.turn.sensitiveKeys → ¬ Redactor.NameSensitive ch.key →
          ch.before = (d.turn.state.get? ch.key).map (e.redactor.truncate ·.toText) ∧
            ch.after = (d.stateAfter.get? ch.key).map (e.redactor.truncate ·.toText)) := by
  obtain ⟨turns, w, h⟩ := exists_runs e f trigger c s
  obtain ⟨ds, rfl, possible, recorded⟩ := h.exists_dispatches
  rw [List.append_assoc] at recorded
  refine ⟨ds, w, _, h, recorded, ?_, ?_⟩
  · rw [List.filter_append, Dispatch.filter_flatMap_recorded possible,
      List.filter_cons_of_neg (by simpa using e.endEvent_type f trigger c s), List.filter_nil,
      List.append_nil, funext (Dispatch.traced_eq e)]
  · intro d _ ch hch
    constructor
    · intro hs
      exact Redactor.hidden_of_mem_diff hch (hs.imp_right (e.isSensitive_redactor ch.key).2)
    · intro hk hs
      have ordinary : e.redactor.redactWith d.turn.sensitiveKeys ch.key =
          (e.redactor.truncate ·.toText) := by
        funext v
        exact Redactor.redactWith_of_ordinary hk (mt (e.isSensitive_redactor ch.key).1 hs) v
      rw [← ordinary]
      exact Redactor.mem_diff hch

end Engine

def Platform.responding (response : HttpResponse) : Platform Unit where
  respond c s :=
    ⟨some (match c with
      | .httpGet .. => .ok response
      | c => Platform.refusal c), s, []⟩
  clock s := (0, s)

namespace Flow

def onFetch : Trigger := { type := .onClick, startNodeId := "fetch" }

def overwriting : Flow :=
  { id := "overwriting", triggers := [onFetch],
    nodes :=
      [{ id := "fetch", type := "Curl", next := some "wipe",
         params := .ofList [("url", .text "https://example.com/"), ("bodyKey", .text "answer")] },
        { id := "wipe", type := "SetState",
          params := .ofList [("key", .text "answer"), ("value", .text "done")] }] }

end Flow

namespace Engine

def answered : Engine Unit Unit :=
  { plain with platform := .responding ⟨"secret", 200, "text/plain"⟩ }

/-- The key in which an earlier node keeps a body is not hidden in the trace of the node that writes
over it, although nodes are traced. -/
theorem overwriting_trace_shows_body :
    answered.settings.traceNodes = true ∧
      ∃ fetch wipe w,
        answered.Runs Flow.overwriting Flow.onFetch {} .fresh [fetch, wipe] w ∧
        NodeKind.ofName? fetch.node.type = some .curl ∧ fetch.bodyKey = "answer" ∧
        .nodeTrace "overwriting" "wipe" "SetState" [⟨"answer", some "secret", some "done"⟩] [] ∈
          (answered.execute Flow.overwriting Flow.onFetch {} .fresh).2.journal.events ∧
        ¬ FieldChange.Hidden ⟨"answer", some "secret", some "done"⟩ := by
  refine ⟨rfl, _, _, _, .admitted (by decide +kernel) (.onward (by decide) ⟨rfl, by decide⟩
    (by rfl) rfl (.onward (by decide) ⟨rfl, by decide⟩ (by rfl) rfl (.finished ?_))), by decide,
    by decide +kernel, by decide +kernel, by decide⟩
  intro id h
  cases h

end Engine
end PluginFlow
