import PluginFlow.Proofs.Completion

/-!
Where runs begin. A flow is checked to have the node that a trigger names, also when the name is
blank, but a blank name leads a run nowhere.
-/

namespace PluginFlow
namespace Engine

variable {σ ω : Type} {e : Engine σ ω} {f : Flow} {trigger : Trigger} {c : Context}
  {s : Session σ ω}

/-- The first turn of a run is one of the node that its trigger names, at the place where the run
starts. -/
def Begins (e : Engine σ ω) (f : Flow) (trigger : Trigger) (c : Context) (s : Session σ ω) :
    Prop :=
  ∃ n turns w, f.Holds trigger.startNodeId n ∧
    e.Runs f trigger c s (e.turnAt f n (e.startPlace f trigger c s) :: turns) w

/-- With room for a step, a walk that awaits a node of the flow takes a turn of it. -/
theorem Walks.exists_first {k : Nat} {p : Place σ ω} {turns : List Turn} {w : Walked σ ω}
    (h : e.Walks f k p turns w) {id : String} (awaits : p.Awaits id) (declared : id ∈ f.nodeIds)
    (room : k < e.settings.maxStepsPerRun) :
    ∃ n rest, f.Holds id n ∧ turns = e.turnAt f n p :: rest := by
  cases h with
  | finished ended => exact absurd ended awaits.not_atEnd
  | exhausted _ => exact absurd room (Nat.lt_irrefl _)
  | lost _ awaits' absent =>
    cases awaits.unique awaits'
    obtain ⟨n, hn, hid⟩ := List.mem_map.1 declared
    exact absurd hid (absent n hn)
  | failed _ awaits' holds _ =>
    cases awaits.unique awaits'
    exact ⟨_, _, holds, rfl⟩
  | onward _ awaits' holds _ _ =>
    cases awaits.unique awaits'
    exact ⟨_, _, holds, rfl⟩

/-- A walk counts a step for each of its turns. -/
theorem Walks.le_steps {k : Nat} {p : Place σ ω} {turns : List Turn} {w : Walked σ ω}
    (h : e.Walks f k p turns w) : k + turns.length ≤ w.steps := by
  induction h with
  | finished _ => exact Nat.le_refl _
  | exhausted _ => exact Nat.le_refl _
  | lost _ _ _ => exact Nat.le_succ _
  | failed _ _ _ _ => exact Nat.le_refl _
  | onward _ _ _ _ _ ih =>
    rw [List.length_cons]
    omega

theorem walks_of_runs {turns : List Turn} {w : Walked σ ω} (h : e.Runs f trigger c s turns w)
    (free : (e.enter f trigger c s).1 = true) :
    e.Walks f 0 (e.startPlace f trigger c s) turns w := by
  cases h with
  | rejected full =>
    rw [full] at free
    cases free
  | admitted _ walks => exact walks

/-- An admitted run begins at the node that its trigger names. -/
theorem begins_of_visible (declared : trigger.startNodeId ∈ f.nodeIds)
    (roomy : 1 ≤ e.settings.maxStepsPerRun) (free : (e.enter f trigger c s).1 = true)
    (visible : Text.isBlankText trigger.startNodeId = false) :
    e.Begins f trigger c s ∧ 1 ≤ (e.execute f trigger c s).1.steps := by
  obtain ⟨turns, w, h⟩ := exists_runs e f trigger c s
  have walks := walks_of_runs h free
  obtain ⟨n, rest, holds, rfl⟩ := walks.exists_first ⟨rfl, visible⟩ declared roomy
  refine ⟨⟨n, rest, w, holds, h⟩, ?_⟩
  have counted := walks.le_steps
  rw [List.length_cons] at counted
  rw [h.result_eq]
  change 1 ≤ w.steps
  omega

/-- An admitted run of a trigger that names nothing visible takes no turn and succeeds. -/
theorem idle_of_blank (free : (e.enter f trigger c s).1 = true)
    (blank : Text.isBlankText trigger.startNodeId = true) :
    ¬ e.Begins f trigger c s ∧ (e.execute f trigger c s).1.ok = true ∧
      (e.execute f trigger c s).1.steps = 0 := by
  have ended : (e.startPlace f trigger c s).AtEnd := by
    rintro id ⟨⟩
    exact blank
  have h : e.Runs f trigger c s [] ⟨none, 0, c, (e.enter f trigger c s).2⟩ :=
    .admitted free (.finished ended)
  refine ⟨?_, ?_, ?_⟩
  · rintro ⟨n, turns, w, -, h'⟩
    cases (h.unique h').1
  · rw [h.result_eq]
    rfl
  · rw [h.result_eq]
    rfl

/-- An admitted run of a loaded flow begins at the node that its trigger names, unless that name is
blank. Then it does nothing and succeeds, even if the flow has a node of this name. -/
theorem loaded_trigger_begins {ω' : Type} {l : Loader ω'} {bytes : List UInt8} {g : Grants}
    {j : Journal ω'} {lf : LoadedFlow} (loaded : (l.load bytes g j).1 = .ok lf) (e : Engine σ ω)
    (roomy : 1 ≤ e.settings.maxStepsPerRun) {trigger : Trigger}
    (ht : trigger ∈ lf.definition.triggers) (c : Context) (s : Session σ ω)
    (free : (e.enter lf.definition trigger c s).1 = true) :
    (Text.isBlankText trigger.startNodeId = false →
      e.Begins lf.definition trigger c s ∧
        1 ≤ (e.execute lf.definition trigger c s).1.steps) ∧
    (Text.isBlankText trigger.startNodeId = true →
      ¬ e.Begins lf.definition trigger c s ∧
        (e.execute lf.definition trigger c s).1.ok = true ∧
        (e.execute lf.definition trigger c s).1.steps = 0) := by
  have declared := (Loader.accepted_of_load loaded).starts trigger ht
  exact ⟨begins_of_visible declared roomy free, idle_of_blank free⟩

theorem greeting_begins :
    (plain.enter Flow.greeting Flow.onClick {} Session.fresh).1 = true ∧
      Text.isBlankText Flow.onClick.startNodeId = false ∧
      plain.Begins Flow.greeting Flow.onClick {} Session.fresh ∧
      1 ≤ (plain.execute Flow.greeting Flow.onClick {} Session.fresh).1.steps := by
  have free : (plain.enter Flow.greeting Flow.onClick {} Session.fresh).1 = true := rfl
  have visible : Text.isBlankText Flow.onClick.startNodeId = false := by decide
  exact ⟨free, visible, (loaded_trigger_begins Loader.load_greeting plain (by decide)
    (List.mem_singleton_self Flow.onClick) {} Session.fresh free).1 visible⟩

end Engine

namespace Flow

def unnamed : Trigger := { type := .onClick, startNodeId := " " }

def hushed : Flow :=
  { id := "hushed", triggers := [unnamed],
    nodes :=
      [{ id := " ", type := "ShowToast",
         params := .ofList [("message", .text "Hello")] }] }

def hushedBytes : List UInt8 := Text.Utf8.encode hushed.toDocument.compact

end Flow

/-- The flow is loaded without a warning and its run is admitted, yet the toast is not reached. -/
theorem Engine.hushed_never_begins :
    ∃ lf, (Loader.plain.load Flow.hushedBytes (.ofList [.ui]) ⟨(), []⟩).1 = .ok lf ∧
      lf.warnings = [] ∧ Flow.unnamed ∈ lf.definition.triggers ∧
      1 ≤ plain.settings.maxStepsPerRun ∧
      (plain.enter lf.definition Flow.unnamed {} Session.fresh).1 = true ∧
      ¬ plain.Begins lf.definition Flow.unnamed {} Session.fresh ∧
      (plain.execute lf.definition Flow.unnamed {} Session.fresh).1.ok = true ∧
      (plain.execute lf.definition Flow.unnamed {} Session.fresh).1.steps = 0 := by
  have loaded : (Loader.plain.load Flow.hushedBytes (.ofList [.ui]) ⟨(), []⟩).1 =
      .ok ⟨Flow.hushed, .ofList [.ui], [], Flow.hushed.hash⟩ :=
    Loader.load_of_sound (by decide +kernel) (by decide +kernel)
  have free : (plain.enter Flow.hushed Flow.unnamed {} Session.fresh).1 = true := rfl
  exact ⟨_, loaded, rfl, List.mem_singleton_self Flow.unnamed, by decide, free,
    idle_of_blank free (by decide)⟩

end PluginFlow
