import PluginFlow.Proofs.Scripts
import PluginFlow.Proofs.Trail

/-!
Nodes that fail leave nothing. A node takes the steps that can fail before it changes the state or
the rows, so a run that is broken off ends where the nodes that succeeded before have led it.
-/

namespace PluginFlow

def Dispatch.Succeeded (d : Dispatch) : Prop := ∃ o, d.result = .ok o

/-- How turns end at a state and a context for the reason that is given, if any: those that
succeeded lead there, and a turn that failed found them there. -/
structure Ends (state : KeyMap Value) (c : Context) (done : List Dispatch)
    (failed : Option Dispatch) (fault : Option RunFault) (state' : KeyMap Value) (c' : Context) :
    Prop where
  succeeded : ∀ d ∈ done, d.Succeeded
  leads : Leads state c done state' c'
  found : ∀ d ∈ failed, d.turn.state = state' ∧ d.turn.context = c'
  blamed : ∀ reason, fault = some (.node reason) ↔ failed.map (·.result) = some (.error reason)

namespace Ends

variable {state state' : KeyMap Value} {c c' : Context} {fault : Option RunFault}

/-- Without a turn and without a failed node everything stays. -/
theorem idle (blameless : ∀ reason, fault ≠ some (.node reason)) :
    Ends state c [] none fault state c where
  succeeded _ h := by cases h
  leads := .nil
  found _ h := by cases h
  blamed reason := ⟨fun h => absurd h (blameless reason), fun h => by cases h⟩

/-- A turn that succeeds leads on to where the others start. -/
theorem onward {t : Turn} {o : Outcome} {done : List Dispatch} {failed : Option Dispatch}
    (leaves : t.plan.Leaves o)
    (rest : Ends (t.state.insertAll o.writes) { t.context with items := o.items } done failed fault
      state' c') :
    Ends t.state t.context (⟨t, .ok o⟩ :: done) failed fault state' c' where
  succeeded := List.forall_mem_cons.2 ⟨⟨o, rfl⟩, rest.succeeded⟩
  leads := by
    refine .cons (d := ⟨t, .ok o⟩) ?_ rest.leads
    intro o' h
    cases h
    exact leaves
  found := rest.found
  blamed := rest.blamed

/-- A turn that fails leaves the state and the context as it found them. -/
theorem broken (t : Turn) (reason : NodeFault) :
    Ends t.state t.context [] (some ⟨t, .error reason⟩) (some (.node reason)) t.state
      t.context where
  succeeded _ h := by cases h
  leads := .nil
  found d h := by
    cases h
    exact ⟨rfl, rfl⟩
  blamed reason' := by simp

end Ends

namespace Engine

variable {σ ω : Type} {e : Engine σ ω} {f : Flow}

/-- A plan fails by itself, or because the platform breaks off its call. -/
theorem carryOut_eq_error_iff {p : Plan} {s : Session σ ω} {fault : NodeFault} :
    (e.carryOut p s).1 = .error fault ↔
      p = .fail fault ∨
        fault = .broken ∧ ∃ c, p.call? = some c ∧ (e.platform.respond c s.world).answer = none := by
  cases p with
  | fail reason => simp [carryOut, Plan.call?]
  | done o => simp [carryOut, Plan.call?]
  | ask c resume =>
    rcases ha : e.ask c s with ⟨_ | a, s'⟩
    · have silent : (e.platform.respond c s.world).answer = none := congrArg (·.1) ha
      simp [carryOut, ha, Plan.call?, silent, eq_comm]
    · have answered : (e.platform.respond c s.world).answer = some a := congrArg (·.1) ha
      simp [carryOut, ha, Plan.call?, answered]

theorem visit_eq_error_iff {n : Node} {c : Context} {s : Session σ ω} {fault : NodeFault} :
    (e.visit f n c s).1 = .error fault ↔
      (e.carryOut (e.turn f n s.state c).plan s).1 = .error fault := by
  rcases h : e.carryOut (e.turn f n s.state c).plan s with ⟨_ | o, s'⟩ <;> simp [visit_eq, h]

/-- A node that fails leaves the rows and the state as they were: its steps were taken in an order
in which nothing is changed before. -/
theorem visit_of_error {n : Node} {c : Context} {s : Session σ ω} {fault : NodeFault}
    (failed : (e.visit f n c s).1 = .error fault) :
    (e.visit f n c s).2.1 = c ∧ (e.visit f n c s).2.2.state = s.state := by
  have stopped : (e.perform (e.turn f n s.state c).handle c s).1 = .error fault := by
    simp only [visit] at failed
    rcases h : (e.perform (e.turn f n s.state c).handle c s).1 with reason | next
    · rw [h] at failed
      exact failed
    · rw [h] at failed
      cases failed
  obtain ⟨rows, state⟩ := perform_of_error (e.turn f n s.state c).handle_checksFirst stopped
  exact ⟨rows, (e.state_trace _ _ _).trans state⟩

/-- The turns of a walk that succeeded lead to where it ends, and one that failed found the state
and the context there. -/
theorem Walks.exists_ends {k : Nat} {p : Place σ ω} {turns : List Turn} {w : Walked σ ω}
    (h : e.Walks f k p turns w) :
    ∃ done failed, turns = (done ++ failed.toList).map (·.turn) ∧
      Ends p.session.state p.context done failed w.fault w.session.state w.context := by
  induction h with
  | finished _ => exact ⟨[], none, rfl, .idle (by simp)⟩
  | exhausted _ => exact ⟨[], none, rfl, .idle (by simp)⟩
  | lost _ _ _ => exact ⟨[], none, rfl, .idle (by simp)⟩
  | @failed k p _ n fault s _ _ _ taken =>
    refine ⟨[], some ⟨e.turnAt f n p, .error fault⟩, rfl, ?_⟩
    have visited := visit_of_take_error taken
    obtain ⟨-, state⟩ := visit_of_error (congrArg (·.1) visited)
    rw [visited] at state
    have kept : (e.abandon f n fault p s).state = p.session.state := by
      rw [abandon, state_reportFailure]
      exact state
    rw [kept]
    exact .broken (e.turnAt f n p) fault
  | @onward k p _ n o s _ _ _ _ _ taken _ ih =>
    obtain ⟨done, failed, hturns, ends⟩ := ih
    refine ⟨⟨e.turnAt f n p, .ok o⟩ :: done, failed, by rw [hturns]; rfl, ?_⟩
    have left : (e.leave (e.turnAt f n p) o p s).session.state =
        (e.turnAt f n p).state.insertAll o.writes := by
      simp only [leave, state_trace, state_settle, state_of_take taken]
      rfl
    rw [left] at ends
    exact .onward (leaves_of_take taken) ends

theorem Walks.context_eq {k : Nat} {p : Place σ ω} {turns : List Turn} {w : Walked σ ω}
    (h : e.Walks f k p turns w) :
    w.context = { p.context with items := w.context.items } := by
  induction h with
  | finished _ => rfl
  | exhausted _ => rfl
  | lost _ _ _ => rfl
  | failed _ _ _ _ => rfl
  | onward _ _ _ _ _ ih => exact ih

theorem Runs.exists_ends {trigger : Trigger} {c : Context} {s : Session σ ω} {turns : List Turn}
    {w : Walked σ ω} (h : e.Runs f trigger c s turns w) :
    ∃ done failed, turns = (done ++ failed.toList).map (·.turn) ∧
      Ends s.state c done failed w.fault w.session.state { c with items := w.context.items } := by
  cases h with
  | rejected _ => exact ⟨[], none, rfl, .idle (by simp [turnedAway])⟩
  | admitted _ walks =>
    obtain ⟨done, failed, hturns, ends⟩ := walks.exists_ends
    refine ⟨done, failed, hturns, ?_⟩
    rw [walks.context_eq] at ends
    exact ends

/-- Every node takes the steps that can fail before it changes anything. It fails exactly when its
plan does or when the platform breaks off its call, and then the rows and the state are what they
were before it. So a run, however it ends, ends with the state and the rows to which the nodes that
succeeded have led from its start; the node that it was broken off at has found these and added
nothing. -/
theorem execute_ends (e : Engine σ ω) (f : Flow) :
    (∀ t : Turn, t.handle.ChecksFirst) ∧
    (∀ (n : Node) (c : Context) (s : Session σ ω) (fault : NodeFault),
      ((e.visit f n c s).1 = .error fault ↔
        (e.turn f n s.state c).plan = .fail fault ∨
          fault = .broken ∧ ∃ call, (e.turn f n s.state c).plan.call? = some call ∧
            (e.platform.respond call s.world).answer = none) ∧
      ((e.visit f n c s).1 = .error fault →
        (e.visit f n c s).2.1 = c ∧ (e.visit f n c s).2.2.state = s.state)) ∧
    ∀ (trigger : Trigger) (c : Context) (s : Session σ ω),
      ∃ done failed w, e.Runs f trigger c s ((done ++ failed.toList).map (·.turn)) w ∧
        (e.execute f trigger c s).1.error = w.fault.map RunFault.message ∧
        Ends s.state c done failed w.fault (e.execute f trigger c s).2.state
          { c with items := (e.execute f trigger c s).1.items } := by
  refine ⟨Turn.handle_checksFirst, ?_, ?_⟩
  · intro n c s fault
    exact ⟨visit_eq_error_iff.trans carryOut_eq_error_iff, visit_of_error⟩
  · intro trigger c s
    obtain ⟨turns, w, h⟩ := exists_runs e f trigger c s
    obtain ⟨done, failed, rfl, ends⟩ := h.exists_ends
    refine ⟨done, failed, w, h, ?_, ?_⟩
    · rw [h.result_eq]
      rfl
    · rw [h.state_eq, h.result_eq]
      exact ends

end Engine

def Platform.breaking : Platform Unit where
  respond _ s := ⟨none, s, []⟩
  clock s := (0, s)

def Script.hasty : Script (Option String) := do
  .set currentScreenKey (.text "gate")
  let _ ← .call (.navigate "gate" .empty)
  return none

namespace Flow

def onDepart : Trigger := { type := .onClick, startNodeId := "pack" }

def departure : Node :=
  { id := "go", type := "Navigate", params := .ofList [("screenId", .text "gate")] }

def departing : Flow :=
  { id := "departing", triggers := [onDepart],
    nodes :=
      [{ id := "pack", type := "SetState", next := some "go",
         params := .ofList [("key", .text "bag"), ("value", .text "packed")] },
        departure] }

end Flow

namespace Engine

def breaking : Engine Unit Unit := { plain with platform := .breaking }

/-- A screen that could not be gone to is not written to the state. -/
theorem departure_leaves_state :
    (breaking.visit Flow.departing Flow.departure {} .fresh).1 = .error .broken ∧
      (breaking.visit Flow.departing Flow.departure {} .fresh).2.1 = {} ∧
      (breaking.visit Flow.departing Flow.departure {} .fresh).2.2.state = .empty := by
  have failed : (breaking.visit Flow.departing Flow.departure {} .fresh).1 = .error .broken := rfl
  exact ⟨failed,
    ((execute_ends breaking Flow.departing).2.1 Flow.departure {} .fresh .broken).2 failed⟩

/-- What the nodes before it have written stays. -/
example :
    (breaking.execute Flow.departing Flow.onDepart {} .fresh).1.error = some "node_failed" ∧
      (breaking.execute Flow.departing Flow.onDepart {} .fresh).2.state =
        .ofList [("bag", .text "packed")] := by
  decide +kernel

/-- The order of its steps is what keeps a node from leaving this: a screen that is written to the
state before it is gone to stays there when the call breaks off. -/
example :
    (breaking.perform Script.hasty {} .fresh).1 = .error .broken ∧
      (breaking.perform Script.hasty {} .fresh).2.2.state =
        .ofList [(currentScreenKey, .text "gate")] := by
  exact ⟨rfl, by decide +kernel⟩

end Engine
end PluginFlow
