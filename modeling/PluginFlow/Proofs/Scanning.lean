import Mathlib.Data.List.Sort
import PluginFlow.Discovery
import PluginFlow.Proofs.Accepted

/-!
Scans of directories. A scan sorts the flow files of a directory into flows and failures, each file
once and in the order of the names, and what becomes of a file depends on that file alone.
-/

namespace PluginFlow

variable {ω : Type}

/-! ### One file -/

namespace Loader

variable {l : Loader ω} {g : Grants}

def alone (l : Loader ω) (fs : FileView Id) (g : Grants) (j : Journal ω) (path : String) :
    Except LoadFault LoadedFlow :=
  (l.loadFile fs path g j).1

theorem loadFlow_journal (f : Flow) (j j' : Journal ω) :
    (l.loadFlow f g j).1 = (l.loadFlow f g j').1 := by
  by_cases sound : (f.validate l.registry g).errors = []
  · rw [loadFlow_of_sound sound, loadFlow_of_sound sound]
  · rw [loadFlow_of_unsound sound, loadFlow_of_unsound sound]

theorem load_journal (bytes : List UInt8) (j j' : Journal ω) :
    (l.load bytes g j).1 = (l.load bytes g j').1 := by
  unfold load
  split
  · rfl
  · exact loadFlow_journal _ j j'

/-- What a file gives depends on its content alone. -/
theorem alone_congr {fs fs' : FileView Id} {path : String} (j j' : Journal ω)
    (same : fs.read path = fs'.read path) : l.alone fs g j path = l.alone fs' g j' path := by
  change (l.loadContent path (fs.read path) g j).1 = (l.loadContent path (fs'.read path) g j').1
  rw [same]
  cases fs'.read path with
  | error f => rfl
  | ok bytes => exact load_journal bytes j j'

/-- Loading files one after another gives for each what it gives alone. -/
theorem loadFiles_eq (fs : FileView Id) (start : Journal ω) (paths : List String)
    (j : Journal ω) :
    (l.loadFiles fs g paths j).1 = paths.map fun path => (path, l.alone fs g start path) := by
  induction paths generalizing j with
  | nil => rfl
  | cons path rest ih =>
    rw [List.map_cons, ← ih, ← alone_congr j start rfl]
    rfl

end Loader

/-! ### Sorting of outcomes -/

def ScanFault.lacking? (path : String) : Except LoadFault LoadedFlow → Option (String × ScanFault)
  | .ok _ => none
  | .error f => some (path, .flow path f)

namespace Scan

theorem flows_ofOutcomes (outcomes : List (String × Except LoadFault LoadedFlow)) :
    (ofOutcomes outcomes).flows = outcomes.filterMap (·.2.toOption) := by
  fun_induction ofOutcomes outcomes with
  | case1 => rfl
  | case2 path f rest s ih => exact congrArg (f :: ·) ih
  | case3 path f rest s ih => exact ih

theorem failures_ofOutcomes (outcomes : List (String × Except LoadFault LoadedFlow)) :
    (ofOutcomes outcomes).failures = outcomes.filterMap fun o => ScanFault.lacking? o.1 o.2 := by
  fun_induction ofOutcomes outcomes with
  | case1 => rfl
  | case2 path f rest s ih => exact ih
  | case3 path f rest s ih => exact congrArg ((path, ScanFault.flow path f) :: ·) ih

/-- Every outcome is a flow or a failure. -/
theorem total_ofOutcomes (outcomes : List (String × Except LoadFault LoadedFlow)) :
    (ofOutcomes outcomes).total = outcomes.length := by
  fun_induction ofOutcomes outcomes with
  | case1 => rfl
  | case2 path f rest s ih =>
    rw [List.length_cons, ← ih]
    exact Nat.succ_add _ _
  | case3 path f rest s ih =>
    rw [List.length_cons, ← ih]
    rfl

end Scan

/-! ### One directory -/

structure FlowFiles (fs : FileView Id) (dir : String) (names found : List String) : Prop where
  listed : found.Perm (names.filter fun n => isFlowName n && fs.isFile (Path.join dir n))
  ordered : found.Pairwise (· ≤ ·)

theorem FlowFiles.pairwise_lt {fs : FileView Id} {dir : String} {names found : List String}
    (h : FlowFiles fs dir names found) (distinct : names.Nodup) : found.Pairwise (· < ·) := by
  have once : found.Nodup := h.listed.nodup_iff.2 (distinct.filter _)
  refine (h.ordered.and once).imp fun {a b} both => ?_
  by_contra behind
  exact both.2 (String.le_antisymm both.1 (String.not_lt.1 behind))

/-- A scan holds what its files give one by one. -/
structure Loader.Sorts (l : Loader ω) (fs : FileView Id) (g : Grants) (j : Journal ω) (dir : String)
    (found : List String) (s : Scan) : Prop where
  flows : s.flows = found.filterMap fun n => (l.alone fs g j (Path.join dir n)).toOption
  failures : s.failures = found.filterMap fun n =>
    ScanFault.lacking? (Path.join dir n) (l.alone fs g j (Path.join dir n))
  total : s.total = found.length

namespace Loader

theorem filterMapM_eq (p : String → Bool) (f : String → String) (names : List String) :
    List.filterMapM (fun n => (pure (if p n then some (f n) else none) : Id _)) names =
      (names.filter p).map f := by
  have loop (acc : List String) : List.filterMapM.loop
      (fun n => (pure (if p n then some (f n) else none) : Id _)) names acc =
        acc.reverse ++ (names.filter p).map f := by
    induction names generalizing acc with
    | nil => exact (List.append_nil _).symm
    | cons n rest ih =>
      unfold List.filterMapM.loop
      by_cases kept : p n = true
      · rw [if_pos kept, List.filter_cons_of_pos kept, List.map_cons]
        refine (ih (f n :: acc)).trans ?_
        rw [List.reverse_cons, List.append_assoc]
        rfl
      · rw [if_neg kept, List.filter_cons_of_neg kept]
        exact ih acc
  exact loop []

theorem flowPaths_eq (fs : FileView Id) (dir : String) (names : List String) :
    ∃ found, FlowFiles fs dir names found ∧
      flowPaths fs dir names = found.map (Path.join dir) := by
  have sorted : ((names.filter isFlowName).mergeSort fun a b => decide (a ≤ b)).Pairwise
      fun a b => decide (a ≤ b) = true :=
    List.pairwise_mergeSort (fun a b c => by simpa using String.le_trans)
      (fun a b => by simpa using String.le_total a b) _
  have kept := List.mergeSort_perm (names.filter isFlowName) fun a b : String => decide (a ≤ b)
  refine ⟨((names.filter isFlowName).mergeSort fun a b => decide (a ≤ b)).filter fun n =>
    fs.isFile (Path.join dir n), ⟨?listed, ?ordered⟩, ?paths⟩
  case listed =>
    refine (kept.filter _).trans (List.Perm.of_eq ?_)
    rw [List.filter_filter]
    exact List.filter_congr fun n _ => Bool.and_comm _ _
  case ordered => exact (sorted.imp of_decide_eq_true).sublist List.filter_sublist
  case paths => exact filterMapM_eq (fun n => fs.isFile (Path.join dir n)) (Path.join dir) _

variable {l : Loader ω} {fs : FileView Id} {g : Grants} {dir : String}

theorem scanDirectory_missing (missing : fs.isDirectory dir = false) (j : Journal ω) :
    (l.scanDirectory fs g dir j).1 = .error (.directoryNotFound dir) := by
  unfold scanDirectory
  dsimp only [bind, pure]
  rw [missing]
  rfl

theorem scanDirectory_unreadable (present : fs.isDirectory dir = true) {f : FileFault}
    (unreadable : fs.names dir = .error f) (j : Journal ω) :
    (l.scanDirectory fs g dir j).1 = .error (.directoryUnreadable f) := by
  unfold scanDirectory
  dsimp only [bind, pure]
  rw [present, unreadable]
  rfl

theorem scanDirectory_listed (present : fs.isDirectory dir = true) {names : List String}
    (listed : fs.names dir = .ok names) (j : Journal ω) :
    (l.scanDirectory fs g dir j).1 =
      .ok (Scan.ofOutcomes (l.loadFiles fs g (flowPaths fs dir names) j).1) := by
  unfold scanDirectory
  dsimp only [bind, pure]
  rw [present, listed]
  rfl

/-- The flow files of a directory become flows and failures. -/
theorem scanDirectory_sorts (present : fs.isDirectory dir = true) {names : List String}
    (listed : fs.names dir = .ok names) (j : Journal ω) :
    ∃ found s, (l.scanDirectory fs g dir j).1 = .ok s ∧ FlowFiles fs dir names found ∧
      l.Sorts fs g j dir found s := by
  obtain ⟨found, files, paths⟩ := flowPaths_eq fs dir names
  refine ⟨found, _, scanDirectory_listed present listed j, files, ?_⟩
  rw [loadFiles_eq fs j, paths, List.map_map]
  exact {
    flows := by rw [Scan.flows_ofOutcomes, List.filterMap_map]; rfl
    failures := by rw [Scan.failures_ofOutcomes, List.filterMap_map]; rfl
    total := by rw [Scan.total_ofOutcomes, List.length_map] }

/-! ### Several directories -/

def share (l : Loader ω) (fs : FileView Id) (g : Grants) (j : Journal ω) (dir : String) : Scan :=
  match (l.scanDirectory fs g dir j).1 with
  | .ok s => s
  | .error f => ⟨[], [(dir, f)]⟩

theorem scanDirectory_journal (j j' : Journal ω) :
    (l.scanDirectory fs g dir j).1 = (l.scanDirectory fs g dir j').1 := by
  cases present : fs.isDirectory dir with
  | false => rw [scanDirectory_missing present, scanDirectory_missing present]
  | true =>
    cases listed : fs.names dir with
    | error f =>
      rw [scanDirectory_unreadable present listed, scanDirectory_unreadable present listed]
    | ok names =>
      rw [scanDirectory_listed present listed, scanDirectory_listed present listed,
        loadFiles_eq fs j, loadFiles_eq fs j]

/-- Directories are scanned each for itself. -/
theorem scanDirectories_eq (start : Journal ω) (dirs : List String) (j : Journal ω) :
    (l.scanDirectories fs g dirs j).1 =
      ⟨dirs.flatMap fun d => (l.share fs g start d).flows,
        dirs.flatMap fun d => (l.share fs g start d).failures⟩ := by
  induction dirs generalizing j with
  | nil => rfl
  | cons dir rest ih =>
    have first : l.share fs g start dir = l.share fs g j dir := by
      rw [share, share, scanDirectory_journal start j]
    rw [List.flatMap_cons, List.flatMap_cons, first]
    exact congrArg ((l.share fs g j dir).append) (ih _)

/-- A scan partitions the flow files of a directory: each of them, once and in the order of the
names, becomes a flow if loading it alone gives one and else a failure with its path, and what a
file gives depends on nothing but its content. Scans of several directories are put together in
their order; a directory that is missing adds one failure. -/
theorem scan_partitions (l : Loader ω) (fs : FileView Id) (g : Grants) (j : Journal ω) :
    (∀ dir names, fs.isDirectory dir = true → fs.names dir = .ok names →
      ∃ found s, (l.scanDirectory fs g dir j).1 = .ok s ∧ FlowFiles fs dir names found ∧
        (names.Nodup → found.Pairwise (· < ·)) ∧ l.Sorts fs g j dir found s) ∧
    (∀ path (fs' : FileView Id) j', fs'.read path = fs.read path →
      l.alone fs' g j' path = l.alone fs g j path) ∧
    (∀ dirs, (l.scanDirectories fs g dirs j).1 =
      ⟨dirs.flatMap fun d => (l.share fs g j d).flows,
        dirs.flatMap fun d => (l.share fs g j d).failures⟩) ∧
    ∀ dir, fs.isDirectory dir = false →
      l.share fs g j dir = ⟨[], [(dir, .directoryNotFound dir)]⟩ := by
  refine ⟨fun dir names present listed => ?parts, fun path fs' j' same => alone_congr j' j same,
    fun dirs => scanDirectories_eq j dirs j, fun dir missing => ?missing⟩
  case parts =>
    obtain ⟨found, s, scanned, files, sorts⟩ := scanDirectory_sorts present listed j
    exact ⟨found, s, scanned, files, files.pairwise_lt, sorts⟩
  case missing => rw [share, scanDirectory_missing missing]

/-- A directory with a flow, a file that is no flow although its name says so, and notes. -/
def mixedFiles : FileView Id where
  read path := if path = "flows/greeting.flow.json" then .ok Flow.greetingBytes else .ok []
  isFile path := path != "flows"
  isDirectory path := path == "flows"
  names _ := .ok ["notes.txt", "greeting.flow.json", "empty.flow.json"]

/-- One flow and one failure are found beside the notes. -/
theorem scanDirectory_mixedFiles :
    ∃ s, (plain.scanDirectory mixedFiles (.ofList [.ui]) "flows" ⟨(), []⟩).1 = .ok s ∧
      s.total = 2 ∧ s.flows.length = 1 := by
  obtain ⟨found, s, scanned, files, -, sorts⟩ :=
    (scan_partitions plain mixedFiles (.ofList [.ui]) ⟨(), []⟩).1 "flows" _ (by rfl) rfl
  have kept : (["notes.txt", "greeting.flow.json", "empty.flow.json"].filter fun n =>
      isFlowName n && mixedFiles.isFile (Path.join "flows" n)) =
        ["greeting.flow.json", "empty.flow.json"] := by decide +kernel
  have listed := files.listed
  rw [kept] at listed
  have good : (plain.alone mixedFiles (.ofList [.ui]) ⟨(), []⟩
      (Path.join "flows" "greeting.flow.json")).toOption.isSome = true := by
    have path : Path.join "flows" "greeting.flow.json" = "flows/greeting.flow.json" := by
      decide +kernel
    rw [path]
    exact congrArg (·.toOption.isSome) load_greeting
  have bad : (plain.alone mixedFiles (.ofList [.ui]) ⟨(), []⟩
      (Path.join "flows" "empty.flow.json")).toOption = none := by
    have path : Path.join "flows" "empty.flow.json" = "flows/empty.flow.json" := by
      decide +kernel
    rw [path]
    decide +kernel
  refine ⟨s, scanned, ?_, ?_⟩
  · rw [sorts.total, listed.length_eq]
    rfl
  · obtain ⟨flow, shown⟩ := Option.isSome_iff_exists.1 good
    rw [sorts.flows, (listed.filterMap _).length_eq]
    simp only [List.filterMap_cons, shown, bad, List.filterMap_nil, List.length_singleton]

end Loader
end PluginFlow
