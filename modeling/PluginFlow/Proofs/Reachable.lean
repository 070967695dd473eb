import Mathlib.Data.List.Nodup
import PluginFlow.Proofs.Passive
import PluginFlow.Proofs.StepBudget

/-!
A run only meets the nodes that its start leads to. Flows of one id that have the same nodes under
the ids that can be reached from the start of a trigger are run alike from it, whatever else they
hold and in whatever order.
-/

namespace PluginFlow

open Relation (ReflTransGen)

namespace Flow

/-- Flows that have the same nodes, or none, under every id that can be reached from a start. -/
def AgreeFrom (f f' : Flow) (start : String) : Prop :=
  ∀ id, ReflTransGen f.Refers start id → ∀ n, n.id = id → (n ∈ f.nodes ↔ n ∈ f'.nodes)

variable {f f' : Flow} {start id : String} {n : Node}

/-- Where no two nodes share an id, every node is the one under its id. -/
theorem Holds.of_mem (distinct : f.nodeIds.Nodup) (h : n ∈ f.nodes) : f.Holds n.id n := by
  have found : (f.node? n.id).isSome = true := node?_isSome_iff.2 (List.mem_map_of_mem h)
  obtain ⟨m, held⟩ := Option.isSome_iff_exists.1 found
  have holds := node?_eq_some_iff.1 held
  rwa [List.inj_on_of_nodup_map distinct holds.mem h holds.id_eq] at holds

theorem AgreeFrom.holds (agree : f.AgreeFrom f' start) (distinct : f'.nodeIds.Nodup)
    (reached : ReflTransGen f.Refers start id) (holds : f.Holds id n) : f'.Holds id n := by
  have held := Holds.of_mem distinct ((agree id reached n holds.id_eq).1 holds.mem)
  rwa [holds.id_eq] at held

theorem AgreeFrom.absent (agree : f.AgreeFrom f' start)
    (reached : ReflTransGen f.Refers start id) (absent : ∀ n ∈ f.nodes, n.id ≠ id) :
    ∀ n ∈ f'.nodes, n.id ≠ id :=
  fun n hn named => absent n ((agree id reached n named).2 hn) named

/-- Agreement is seen on any ids among which are the start and all that they refer to. -/
theorem AgreeFrom.of_closed {ids : List String} (first : start ∈ ids)
    (closed : ∀ n ∈ f.nodes, n.id ∈ ids → ∀ id ∈ n.successors, id ∈ ids)
    (forth : ∀ n ∈ f.nodes, n.id ∈ ids → n ∈ f'.nodes)
    (back : ∀ n ∈ f'.nodes, n.id ∈ ids → n ∈ f.nodes) : f.AgreeFrom f' start := by
  intro id reached n named
  have known : n.id ∈ ids := by
    rw [named]
    clear named
    induction reached with
    | refl => exact first
    | tail _ step ih =>
      obtain ⟨m, hm, rfl, hid⟩ := step
      exact closed m hm ih _ hid
  exact ⟨fun h => forth n h known, fun h => back n h known⟩

end Flow

namespace Engine

variable {σ ω : Type} {e : Engine σ ω} {f f' : Flow}

theorem turnAt_congr (same : f.id = f'.id) (n : Node) (p : Place σ ω) :
    e.turnAt f n p = e.turnAt f' n p := by
  rw [turnAt, turnAt, turn, turn, same]

theorem take_congr (same : f.id = f'.id) (n : Node) (k : Nat) (p : Place σ ω) :
    e.take f n k p = e.take f' n k p := by
  rw [take, take, turnAt_congr same, announce, announce, nodeLog, nodeLog, same]

theorem abandon_congr (same : f.id = f'.id) (n : Node) (fault : NodeFault) (p : Place σ ω)
    (s : Session σ ω) : e.abandon f n fault p s = e.abandon f' n fault p s := by
  rw [abandon, abandon, turnAt_congr same, reportFailure, reportFailure, nodeLog, nodeLog, same]

theorem finish_congr (same : f.id = f'.id) (trigger : Trigger) (started : Nat) (w : Walked σ ω) :
    e.finish f trigger started w = e.finish f' trigger started w := by
  rw [finish, finish, same]

/-- A walk that begins where the start leads is the same walk in a flow that agrees from there. -/
theorem Walks.of_agreeFrom {start : String} {k : Nat} {p : Place σ ω} {turns : List Turn}
    {w : Walked σ ω} (h : e.Walks f k p turns w) (same : f.id = f'.id)
    (distinct : f'.nodeIds.Nodup) (agree : f.AgreeFrom f' start)
    (reached : ∀ id, p.Awaits id → ReflTransGen f.Refers start id) : e.Walks f' k p turns w := by
  induction h with
  | finished ended => exact .finished ended
  | exhausted awaits => exact .exhausted awaits
  | lost room awaits absent => exact .lost room awaits (agree.absent (reached _ awaits) absent)
  | failed room awaits holds taken =>
    rw [turnAt_congr same, abandon_congr same]
    rw [take_congr same] at taken
    exact .failed room awaits (agree.holds distinct (reached _ awaits) holds) taken
  | @onward k p id n o s turns w room awaits holds taken _ ih =>
    -- What the node leaves pending is one of its references, so it can be reached as well.
    have onward : ∀ next, (e.leave (e.turnAt f n p) o p s).Awaits next →
        ReflTransGen f.Refers start next := by
      intro next awaits'
      have step := refers_of_awaits_leave holds.mem (leaves_of_take taken) awaits'
      rw [holds.id_eq] at step
      exact (reached id awaits).tail step
    have rest := ih onward
    rw [turnAt_congr same] at rest ⊢
    rw [take_congr same] at taken
    exact .onward room awaits (agree.holds distinct (reached _ awaits) holds) taken rest

/-- Flows that agree from the start of a trigger are run alike from it. -/
theorem execute_eq_of_agreeFrom {trigger : Trigger} (same : f.id = f'.id)
    (distinct : f'.nodeIds.Nodup) (agree : f.AgreeFrom f' trigger.startNodeId) (c : Context)
    (s : Session σ ω) : e.execute f trigger c s = e.execute f' trigger c s := by
  obtain ⟨turns, w, run⟩ := exists_runs e f trigger c s
  have entered : e.enter f trigger c s = e.enter f' trigger c s := by
    rw [enter, enter, runKey, runKey, same]
  have run' : e.Runs f' trigger c s turns w := by
    cases run with
    | rejected full =>
      have away : e.turnedAway f trigger c s = e.turnedAway f' trigger c s := by
        rw [turnedAway, turnedAway, reject, reject, runKey, runKey, entered, same]
      rw [away]
      exact .rejected (entered ▸ full)
    | admitted free walks =>
      have start : e.startPlace f trigger c s = e.startPlace f' trigger c s := by
        rw [startPlace, startPlace, entered]
      refine .admitted (entered ▸ free) (start ▸ walks.of_agreeFrom same distinct agree ?_)
      intro id awaits
      cases awaits.1
      exact .refl
  rw [run.execute_eq, run'.execute_eq, finish_congr same]

/-- Only the part of a flow that the start of a trigger leads to decides a run from it: flows with
the same nodes there come to the very same on one host. On hosts that answer alike they come to the
same up to times: results, states, events and calls. -/
theorem reachable_part_decides {σ' ω' : Type} {e' : Engine σ' ω'} {idle busy : σ → σ' → Prop}
    {s : Session σ ω} {s' : Session σ' ω'} {trigger : Trigger} (same : f.id = f'.id)
    (distinct : f'.nodeIds.Nodup) (agree : f.AgreeFrom f' trigger.startNodeId)
    (like : e.Alike idle busy e') (settings : e.settings = e'.settings)
    (h : s.Alike True idle s') (c : Context) :
    e.execute f trigger c s = e.execute f' trigger c s ∧
      (e.execute f trigger c s).1.untimed = (e'.execute f' trigger c s').1.untimed ∧
      (e.execute f trigger c s).2.state = (e'.execute f' trigger c s').2.state ∧
      (e.execute f trigger c s).2.journal.events.map Audit.Event.untimed =
        (e'.execute f' trigger c s').2.journal.events.map Audit.Event.untimed ∧
      (e.execute f trigger c s).2.journal.calls = (e'.execute f' trigger c s').2.journal.calls := by
  have one := execute_eq_of_agreeFrom (e := e) same distinct agree c s
  obtain ⟨results, after⟩ := execute_alike like (fun _ => settings) h f' trigger c
  rw [one]
  exact ⟨rfl, results, after.state, after.events trivial, after.calls⟩

end Engine

/-! ### Two flows with the same way through -/

namespace Flow

def first : Node :=
  { id := "first", type := "SetState",
    params := .ofList [("key", .text "seen"), ("value", .bool true)], next := some "second" }

def second : Node :=
  { id := "second", type := "ShowToast", params := .ofList [("message", .text "hello")],
    next := some "gone" }

def start : Trigger := { type := .onLoad, startNodeId := "first" }

def direct : Flow := { id := "way", triggers := [start], nodes := [first, second] }

def crowded : Flow :=
  { id := "way",
    nodes := [second, { id := "aside", type := "CaptureImage", next := some "first" }, first] }

theorem direct_agreeFrom_crowded : direct.AgreeFrom crowded start.startNodeId := by
  have first : start.startNodeId ∈ ["first", "second", "gone"] := by decide
  exact .of_closed first (by decide +kernel) (by decide +kernel) (by decide +kernel)

end Flow

namespace Engine

theorem run_of_direct_eq_crowded :
    watched.execute .direct Flow.start {} (session id ()) =
        watched.execute .crowded Flow.start {} (session id ()) ∧
      (watched.execute .direct Flow.start {} (session id ())).1.untimed =
        (watched.execute .crowded Flow.start {} (session late ())).1.untimed ∧
      (watched.execute .direct Flow.start {} (session id ())).2.state =
        (watched.execute .crowded Flow.start {} (session late ())).2.state ∧
      (watched.execute .direct Flow.start {} (session id ())).2.journal.events.map
          Audit.Event.untimed =
        (watched.execute .crowded Flow.start {} (session late ())).2.journal.events.map
          Audit.Event.untimed ∧
      (watched.execute .direct Flow.start {} (session id ())).2.journal.calls =
        (watched.execute .crowded Flow.start {} (session late ())).2.journal.calls := by
  have like : watched.Alike (fun times times' => ∀ n, times (2 * n) = times' (2 * n))
      (fun times times' => ∀ n, times (2 * n + 1) = times' (2 * n + 1)) watched :=
    ⟨rfl, rfl, rfl, Platform.timed_alike⟩
  have alike : (session id ()).Alike True (fun times times' => ∀ n, times (2 * n) = times' (2 * n))
      (session late ()) := by
    refine ⟨rfl, rfl, rfl, fun n => ?_, rfl, fun _ => rfl⟩
    change 2 * n = 2 * n + 5 * (2 * n % 2)
    omega
  have same : Flow.direct.id = Flow.crowded.id := rfl
  exact reachable_part_decides same (by decide) Flow.direct_agreeFrom_crowded like rfl alike {}

end Engine
end PluginFlow
