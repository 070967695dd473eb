import PluginFlow.Catalog.Builtin
import PluginFlow.Proofs.Walk

/-!
What a run comes to. It is turned away by admission, or it is the walk from the start of its
trigger; its result, the state it leaves and the calls it makes are those of that one walk.
-/

namespace PluginFlow

def Walked.result {σ ω : Type} (w : Walked σ ω) (f : Flow) (trigger : Trigger)
    (durationMs : Nat) : RunResult :=
  { ok := w.fault.isNone, flowId := f.id, triggerType := trigger.type, steps := w.steps,
    durationMs := durationMs, error := w.fault.map RunFault.message, items := w.context.items }

namespace Engine

variable {σ ω : Type}

def runKey (f : Flow) (trigger : Trigger) (c : Context) : String :=
  Limiter.key f.id trigger.type (selector trigger c)

def enter (e : Engine σ ω) (f : Flow) (trigger : Trigger) (c : Context) (s : Session σ ω) :
    Bool × Session σ ω :=
  permit (runKey f trigger c) trigger (e.now s).1 (e.now s).2

@[simp] theorem state_enter (e : Engine σ ω) (f : Flow) (trigger : Trigger) (c : Context)
    (s : Session σ ω) : (e.enter f trigger c s).2.state = s.state := rfl

@[simp] theorem calls_enter (e : Engine σ ω) (f : Flow) (trigger : Trigger) (c : Context)
    (s : Session σ ω) : (e.enter f trigger c s).2.journal.calls = s.journal.calls := rfl

def startPlace (e : Engine σ ω) (f : Flow) (trigger : Trigger) (c : Context) (s : Session σ ω) :
    Place σ ω :=
  ⟨some trigger.startNodeId, c, (e.enter f trigger c s).2⟩

def turnedAway (e : Engine σ ω) (f : Flow) (trigger : Trigger) (c : Context) (s : Session σ ω) :
    Walked σ ω :=
  ⟨some .rateLimited, 0, c, e.reject f trigger (runKey f trigger c) (e.enter f trigger c s).2⟩

/-- A run is a walk or is turned away, and ends either way. -/
theorem execute_eq_finish (e : Engine σ ω) (f : Flow) (trigger : Trigger) (c : Context)
    (s : Session σ ω) :
    e.execute f trigger c s =
      e.finish f trigger (e.now s).1
        (if (e.enter f trigger c s).1 then
          e.walk f e.settings.maxStepsPerRun 0 (nonBlank trigger.startNodeId) c
            (e.enter f trigger c s).2
        else e.turnedAway f trigger c s) := by
  have entered : permit (Limiter.key f.id trigger.type (selector trigger c)) trigger (e.now s).1
      (e.now s).2 = ((e.enter f trigger c s).1, (e.enter f trigger c s).2) := rfl
  rw [execute]
  simp only [entered]
  cases (e.enter f trigger c s).1 <;> rfl

/-- The turns of a run and what it comes to. -/
inductive Runs (e : Engine σ ω) (f : Flow) (trigger : Trigger) (c : Context) (s : Session σ ω) :
    List Turn → Walked σ ω → Prop
  | rejected (full : (e.enter f trigger c s).1 = false) :
      Runs e f trigger c s [] (e.turnedAway f trigger c s)
  | admitted {turns : List Turn} {w : Walked σ ω} (free : (e.enter f trigger c s).1 = true)
      (walks : e.Walks f 0 (e.startPlace f trigger c s) turns w) : Runs e f trigger c s turns w

variable {e : Engine σ ω} {f : Flow} {trigger : Trigger} {c : Context} {s : Session σ ω}

theorem exists_runs (e : Engine σ ω) (f : Flow) (trigger : Trigger) (c : Context)
    (s : Session σ ω) : ∃ turns w, e.Runs f trigger c s turns w := by
  cases h : (e.enter f trigger c s).1 with
  | false => exact ⟨[], _, .rejected h⟩
  | true =>
    obtain ⟨turns, w, walks⟩ :=
      exists_walks e f e.settings.maxStepsPerRun 0 (e.startPlace f trigger c s) (Nat.zero_add _)
    exact ⟨turns, w, .admitted h walks⟩

theorem Runs.unique {turns turns' : List Turn} {w w' : Walked σ ω}
    (h : e.Runs f trigger c s turns w) (h' : e.Runs f trigger c s turns' w') :
    turns' = turns ∧ w' = w := by
  cases h with
  | rejected full =>
    cases h' with
    | rejected _ => exact ⟨rfl, rfl⟩
    | admitted free _ => rw [full] at free; cases free
  | admitted free walks =>
    cases h' with
    | rejected full => rw [full] at free; cases free
    | admitted _ walks' => exact walks.unique walks'

/-- An engine runs a flow as told: it carries out the run and ends with what that comes to. -/
theorem Runs.execute_eq {turns : List Turn} {w : Walked σ ω} (h : e.Runs f trigger c s turns w) :
    e.execute f trigger c s = e.finish f trigger (e.now s).1 w := by
  rw [execute_eq_finish]
  cases h with
  | rejected full =>
    rw [full]
    rfl
  | admitted free walks =>
    rw [free]
    exact congrArg (e.finish f trigger (e.now s).1) walks.walk_eq

theorem Runs.result_eq {turns : List Turn} {w : Walked σ ω} (h : e.Runs f trigger c s turns w) :
    (e.execute f trigger c s).1 = w.result f trigger ((e.now w.session).1 - (e.now s).1) := by
  rw [h.execute_eq]
  rfl

theorem Runs.state_eq {turns : List Turn} {w : Walked σ ω} (h : e.Runs f trigger c s turns w) :
    (e.execute f trigger c s).2.state = w.session.state := by
  rw [h.execute_eq, state_finish]

/-- A run makes the calls of its turns in order, and one more to report a failed node. -/
theorem Runs.calls_eq {turns : List Turn} {w : Walked σ ω} (h : e.Runs f trigger c s turns w) :
    (e.execute f trigger c s).2.journal.calls =
      s.journal.calls ++ turns.filterMap (·.plan.call?) ++ w.report.toList := by
  rw [h.execute_eq, calls_finish]
  cases h with
  | rejected _ => simp [turnedAway, Walked.report]
  | admitted _ walks => exact walks.calls

/-- Every turn of a run is one of a node of the flow. -/
theorem Runs.exists_turnAt {turns : List Turn} {w : Walked σ ω}
    (h : e.Runs f trigger c s turns w) {t : Turn} (ht : t ∈ turns) :
    ∃ n ∈ f.nodes, ∃ q : Place σ ω, t = e.turnAt f n q := by
  cases h with
  | rejected _ => cases ht
  | admitted _ walks => exact walks.exists_turnAt ht

/-- Every run ends, in exactly one way: it is turned away with the rows it was given and without
any effect, or it is the walk from the start of its trigger, with the result, the state and the
calls of that walk. -/
theorem execute_eq_run (e : Engine σ ω) (f : Flow) (trigger : Trigger) (c : Context)
    (s : Session σ ω) :
    ∃ turns w,
      (∀ turns' w', e.Runs f trigger c s turns' w' ↔ turns' = turns ∧ w' = w) ∧
      (e.execute f trigger c s).1 = w.result f trigger ((e.now w.session).1 - (e.now s).1) ∧
      (e.execute f trigger c s).2.state = w.session.state ∧
      (e.execute f trigger c s).2.journal.calls =
        s.journal.calls ++ turns.filterMap (·.plan.call?) ++ w.report.toList ∧
      ((e.enter f trigger c s).1 = true →
        w.Accounts e.settings.maxStepsPerRun turns.length) ∧
      ((e.enter f trigger c s).1 = false →
        turns = [] ∧
        (e.execute f trigger c s).1 =
          { ok := false, flowId := f.id, triggerType := trigger.type, steps := 0,
            durationMs := (e.now w.session).1 - (e.now s).1, error := some "rate_limited",
            items := c.items } ∧
        (e.execute f trigger c s).2.state = s.state ∧
        (e.execute f trigger c s).2.journal.calls = s.journal.calls) := by
  obtain ⟨turns, w, h⟩ := exists_runs e f trigger c s
  refine ⟨turns, w, ?_, h.result_eq, h.state_eq, h.calls_eq, ?_, ?_⟩
  · intro turns' w'
    constructor
    · exact h.unique
    · rintro ⟨rfl, rfl⟩
      exact h
  · intro free
    cases h with
    | rejected full => rw [full] at free; cases free
    | admitted _ walks => exact Nat.zero_add turns.length ▸ walks.accounts (Nat.zero_le _)
  · intro full
    have hc := h.calls_eq
    have hr := h.result_eq
    have hs := h.state_eq
    cases h with
    | rejected _ =>
      refine ⟨rfl, hr, hs, ?_⟩
      rw [hc]
      simp [turnedAway, Walked.report]
    | admitted free _ => rw [full] at free; cases free

def plain : Engine Unit Unit :=
  { registry := Registry.builtin, platform := .refusing, sink := .dropping }

end Engine

def Session.fresh : Session Unit Unit :=
  { state := .empty, limiter := { settings := {} }, history := default, world := (),
    journal := ⟨(), []⟩ }

end PluginFlow
