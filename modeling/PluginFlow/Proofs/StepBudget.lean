import Mathlib.Data.List.Chain
import Mathlib.Data.List.Perm.Subperm
import Mathlib.Logic.Relation
import PluginFlow.Proofs.Completion

/-!
When the step budget is spent. A walk follows the references of the nodes it visits, so that it
visits no node twice where these have no cycle, and never ends where every exit leads on.
-/

namespace PluginFlow

open Relation (ReflTransGen TransGen)

/-- What is chained from a start that leads into no cycle is never repeated. -/
theorem nodup_of_isChain {α : Type} {R : α → α → Prop} {start : α}
    (acyclic : ∀ x, ReflTransGen R start x → ¬ TransGen R x x) {xs : List α} (chain : xs.IsChain R)
    (reached : ∀ x ∈ xs.head?, ReflTransGen R start x) : xs.Nodup := by
  induction xs with
  | nil => exact List.nodup_nil
  | cons x xs ih =>
    obtain ⟨first, rest⟩ := List.isChain_cons.1 chain
    have hx : ReflTransGen R start x := reached x rfl
    refine List.nodup_cons.2 ⟨?_, ih rest fun y hy => hx.tail (first y hy)⟩
    intro hm
    have later : ∀ y ∈ xs, TransGen R x y := by
      have pairs := (chain.imp fun _ _ h => TransGen.single h).pairwise
      exact (List.pairwise_cons.1 pairs).1
    exact acyclic x hx (later x hm)

/-- What is chained from a start is reached from it. -/
theorem reached_of_isChain {α : Type} {R : α → α → Prop} {start : α} {xs : List α}
    (chain : xs.IsChain R) (reached : ∀ x ∈ xs.head?, ReflTransGen R start x) :
    ∀ x ∈ xs, ReflTransGen R start x := by
  induction xs with
  | nil => exact fun _ h => absurd h List.not_mem_nil
  | cons x xs ih =>
    obtain ⟨first, rest⟩ := List.isChain_cons.1 chain
    have hx : ReflTransGen R start x := reached x rfl
    exact List.forall_mem_cons.2 ⟨hx, ih rest fun y hy => hx.tail (first y hy)⟩

namespace Flow

def Refers (f : Flow) (id id' : String) : Prop := ∃ n ∈ f.nodes, n.id = id ∧ id' ∈ n.successors

def Resolves (f : Flow) : Prop := ∀ n ∈ f.nodes, ∀ id ∈ n.successors, id ∈ f.nodeIds

instance (f : Flow) : Decidable f.Resolves :=
  inferInstanceAs (Decidable (∀ n ∈ f.nodes, _))

/-- No id that can be reached from the start refers to itself, over others or at once. -/
def AcyclicFrom (f : Flow) (start : String) : Prop :=
  ∀ id, ReflTransGen f.Refers start id → ¬ TransGen f.Refers id id

def LeadsOn (f : Flow) (n : Node) : Prop :=
  ∀ next ∈ n.exits, ∃ id ∈ f.nodeIds, next = some id ∧ Text.isBlankText id = false

instance (f : Flow) (n : Node) : Decidable (f.LeadsOn n) :=
  inferInstanceAs (Decidable (∀ next ∈ n.exits, _))

/-- Every node that can be reached from the start leads on. -/
def EndlessFrom (f : Flow) (start : String) : Prop :=
  ∀ n ∈ f.nodes, ReflTransGen f.Refers start n.id → f.LeadsOn n

theorem Resolves.mem_nodeIds {f : Flow} {start id : String} (resolves : f.Resolves)
    (named : start ∈ f.nodeIds) (h : ReflTransGen f.Refers start id) : id ∈ f.nodeIds := by
  cases h with
  | refl => exact named
  | tail _ step =>
    obtain ⟨n, hn, -, hid⟩ := step
    exact resolves n hn id hid

end Flow

namespace Engine

variable {σ ω : Type} {e : Engine σ ω} {f : Flow}

/-- An id that a node leaves pending is one that it refers to. -/
theorem refers_of_awaits_leave {n : Node} (hn : n ∈ f.nodes) {p : Place σ ω} {o : Outcome}
    {s : Session σ ω} {id : String} (ho : (e.turnAt f n p).plan.Leaves o)
    (awaits : (e.leave (e.turnAt f n p) o p s).Awaits id) : f.Refers n.id id := by
  obtain ⟨named, visible⟩ := awaits
  have named : o.next = some id := named
  refine ⟨n, hn, rfl, Node.mem_successors_iff.2 ⟨?_, visible⟩⟩
  rcases Turn.next_of_leaves ho with h | h | h
  · exact .inl (h.symm.trans named)
  · exact .inr (.inl (h.symm.trans named))
  · exact .inr (.inr (h.symm.trans named))

/-- The ids of the nodes that a walk visits are chained by references from the id that is pending
at its start, and so is the id that is still pending when its budget is spent. -/
theorem Walks.exists_chain {k : Nat} {p : Place σ ω} {turns : List Turn} {w : Walked σ ω}
    (h : e.Walks f k p turns w) :
    ∃ ahead : Option String,
      (turns.map (·.node.id) ++ ahead.toList).IsChain f.Refers ∧
      (∀ id ∈ (turns.map (·.node.id) ++ ahead.toList).head?, p.Awaits id) ∧
      (w.fault = some .stepLimitExceeded → ahead.isSome) := by
  induction h with
  | finished _ => exact ⟨none, .nil, by simp, by simp⟩
  | @exhausted p id awaits => exact ⟨some id, .singleton id, by simp [awaits], by simp⟩
  | lost _ _ _ => exact ⟨none, .nil, by simp, by simp⟩
  | @failed k p id n fault s _ awaits holds _ =>
    refine ⟨none, .singleton n.id, ?_, by simp⟩
    intro id' hid
    cases hid
    rwa [← holds.id_eq] at awaits
  | @onward k p id n o s turns w _ awaits holds taken _ ih =>
    obtain ⟨ahead, chain, head, exhausted⟩ := ih
    refine ⟨ahead, ?_, ?_, exhausted⟩
    · refine List.isChain_cons.2 ⟨?_, chain⟩
      intro id' hid
      exact refers_of_awaits_leave holds.mem (leaves_of_take taken) (head id' hid)
    · intro id' hid
      cases hid
      rwa [← holds.id_eq] at awaits

/-- A walk over references without a cycle visits no node twice, and has room for all of them. -/
theorem Walks.visits_once {p : Place σ ω} {start : String} {turns : List Turn} {w : Walked σ ω}
    (h : e.Walks f 0 p turns w) (pending : p.pending = some start) (named : start ∈ f.nodeIds)
    (resolves : f.Resolves) (acyclic : f.AcyclicFrom start)
    (room : f.nodes.length ≤ e.settings.maxStepsPerRun) :
    (turns.map (·.node.id)).Nodup ∧ w.fault ≠ some .stepLimitExceeded := by
  obtain ⟨ahead, chain, head, exhausted⟩ := h.exists_chain
  have reached : ∀ id ∈ (turns.map (·.node.id) ++ ahead.toList).head?,
      ReflTransGen f.Refers start id := by
    intro id hid
    cases (head id hid).1.symm.trans pending
    exact .refl
  have distinct := nodup_of_isChain acyclic chain reached
  refine ⟨(List.nodup_append.1 distinct).1, ?_⟩
  intro spent
  -- With the pending id the walk has named one id more than the flow has nodes.
  have known : turns.map (·.node.id) ++ ahead.toList ⊆ f.nodeIds := fun id hid =>
    resolves.mem_nodeIds named (reached_of_isChain chain reached id hid)
  have few := (List.subperm_of_subset distinct known).length_le
  have taken := ((h.accounts (Nat.zero_le _)).exhausted spent).2
  obtain ⟨id, rfl⟩ := Option.isSome_iff_exists.1 (exhausted spent)
  simp only [List.length_append, List.length_map, Option.toList_some, List.length_singleton,
    Flow.nodeIds] at few
  omega

/-- A walk whose exits all lead on ends only where a node fails or the budget is spent. -/
theorem Walks.exhausts {k : Nat} {p : Place σ ω} {start : String} {turns : List Turn}
    {w : Walked σ ω} (h : e.Walks f k p turns w) (endless : f.EndlessFrom start)
    (onward : ∃ id ∈ f.nodeIds, p.Awaits id ∧ ReflTransGen f.Refers start id)
    (unfailed : ∀ fault, w.fault ≠ some (.node fault)) : w.fault = some .stepLimitExceeded := by
  obtain ⟨id, named, awaits, reached⟩ := onward
  induction h generalizing id with
  | finished ended => exact absurd ended awaits.not_atEnd
  | exhausted _ => rfl
  | lost _ awaits' absent =>
    cases awaits.unique awaits'
    obtain ⟨n, hn, hid⟩ := List.mem_map.1 named
    exact absurd hid (absent n hn)
  | failed _ _ _ _ => exact absurd rfl (unfailed _)
  | @onward k p id' n o s turns w _ awaits' holds taken _ ih =>
    cases awaits.unique awaits'
    have leaves := leaves_of_take taken
    obtain ⟨next, hnext, named', visible⟩ :=
      endless n holds.mem (holds.id_eq ▸ reached) o.next (Turn.next_mem_exits leaves)
    have awaits'' : (e.leave (e.turnAt f n p) o p s).Awaits next := ⟨named', visible⟩
    have step : f.Refers id' next :=
      holds.id_eq ▸ refers_of_awaits_leave holds.mem leaves awaits''
    exact ih unfailed next hnext awaits'' (reached.tail step)

/-- From a start that leads into no cycle of a flow whose references resolve, with room for all its
nodes, an admitted run visits no node twice and never spends its budget of steps. Where every exit
leads on, it always does, unless a node fails. Nodes may share an id. -/
theorem budget_spent_on_cycles (e : Engine σ ω) (f : Flow) (trigger : Trigger)
    (visible : Text.isBlankText trigger.startNodeId = false)
    (named : trigger.startNodeId ∈ f.nodeIds) (c : Context) (s : Session σ ω)
    (admitted : (e.enter f trigger c s).1 = true) :
    ∃ turns w, e.Runs f trigger c s turns w ∧
      (f.Resolves → f.AcyclicFrom trigger.startNodeId →
        f.nodes.length ≤ e.settings.maxStepsPerRun →
        (turns.map (·.node.id)).Nodup ∧
          (e.execute f trigger c s).1.error ≠ some "step_limit_exceeded") ∧
      (f.EndlessFrom trigger.startNodeId → (∀ fault, w.fault ≠ some (.node fault)) →
        (e.execute f trigger c s).1.error = some "step_limit_exceeded" ∧
          (e.execute f trigger c s).1.steps = e.settings.maxStepsPerRun ∧
            turns.length = e.settings.maxStepsPerRun) := by
  obtain ⟨turns, w, h⟩ := exists_runs e f trigger c s
  refine ⟨turns, w, h, ?_⟩
  rw [h.result_eq]
  cases h with
  | rejected full => rw [full] at admitted; cases admitted
  | admitted _ walks =>
    constructor
    · intro resolves acyclic room
      obtain ⟨once, spared⟩ := walks.visits_once rfl named resolves acyclic room
      refine ⟨once, ?_⟩
      intro spent
      obtain ⟨fault, hf, message⟩ := Option.map_eq_some_iff.1 spent
      have spent : fault = .stepLimitExceeded := (RunFault.message_eq_iff (by simp)).1 message
      exact spared (spent ▸ hf)
    · intro endless unfailed
      have start : (e.startPlace f trigger c s).Awaits trigger.startNodeId := ⟨rfl, visible⟩
      have spent := walks.exhausts endless ⟨_, named, start, .refl⟩ unfailed
      obtain ⟨steps, dispatched⟩ := (walks.accounts (Nat.zero_le _)).exhausted spent
      rw [Nat.zero_add] at dispatched
      exact ⟨by rw [Walked.result, spent]; rfl, steps, dispatched⟩

end Engine

namespace Flow

/-- Where references only go up in some order there is no cycle. -/
theorem acyclicFrom_of_rank {f : Flow} (rank : String → Nat)
    (rising : ∀ n ∈ f.nodes, ∀ id ∈ n.successors, rank n.id < rank id) (start : String) :
    f.AcyclicFrom start := by
  have higher : ∀ {id id' : String}, TransGen f.Refers id id' → rank id < rank id' := by
    intro id id' h
    induction h with
    | single step =>
      obtain ⟨n, hn, rfl, hid⟩ := step
      exact rising n hn _ hid
    | tail _ step ih =>
      obtain ⟨n, hn, rfl, hid⟩ := step
      exact ih.trans (rising n hn _ hid)
  intro id _ cycle
  exact Nat.lt_irrefl _ (higher cycle)

def onKnock : Trigger := { type := .onClick, startNodeId := "knock" }

def messenger (id : String) (next : Option String) : Node :=
  { id := id, type := "EmitMessage", params := .ofList [("messageType", .text id)], next := next }

def knocking (back : Option String) : Flow :=
  { id := "knocking", triggers := [onKnock],
    nodes := [messenger "knock" (some "wait"), messenger "wait" back] }

end Flow

namespace Engine

def brief : Engine Unit Unit := { plain with settings := { maxStepsPerRun := 2 } }

/-- Two nodes in a line have room in two steps; in a circle they use them up. -/
theorem knocking_spends_budget :
    (brief.execute (.knocking none) Flow.onKnock {} .fresh).1.error ≠
        some "step_limit_exceeded" ∧
      (brief.execute (.knocking (some "knock")) Flow.onKnock {} .fresh).1.error =
        some "step_limit_exceeded" ∧
      (brief.execute (.knocking (some "knock")) Flow.onKnock {} .fresh).1.steps = 2 := by
  obtain ⟨_, _, _, line, -⟩ := budget_spent_on_cycles brief (.knocking none) Flow.onKnock
    (by decide) (by decide) {} .fresh (by decide +kernel)
  obtain ⟨_, w, runs, -, circle⟩ := budget_spent_on_cycles brief (.knocking (some "knock"))
    Flow.onKnock (by decide) (by decide) {} .fresh (by decide +kernel)
  have acyclic : (Flow.knocking none).AcyclicFrom "knock" :=
    Flow.acyclicFrom_of_rank (fun id => if id = "wait" then 1 else 0) (by decide) "knock"
  have endless : ∀ n ∈ (Flow.knocking (some "knock")).nodes,
      (Flow.knocking (some "knock")).LeadsOn n := by decide
  have accepted : (Flow.knocking (some "knock")).Accepted Registry.builtin (.ofList [.messaging]) :=
    Flow.accepted_of_sound (Flow.errors_eq_nil_iff.1 (by decide +kernel))
  have unfailed : ∀ fault, w.fault ≠ some (.node fault) := by
    intro fault failed
    rcases runs.completes accepted rfl Platform.answers_refusing (List.mem_singleton_self _) with
      h | h | h <;> rw [h] at failed <;> cases failed
  obtain ⟨spent, steps, -⟩ := circle (fun n hn _ => endless n hn) unfailed
  exact ⟨(line (by decide) acyclic (Nat.le_refl 2)).2, spent, steps⟩

end Engine
end PluginFlow
