import PluginFlow.Proofs.Plan
import PluginFlow.Proofs.Refinement

/-!
Runs as walks over the graph of a flow. The walk is told as a relation, one rule for each way to
go on or to end; an engine carries out exactly this walk, and there is exactly one.
-/

namespace PluginFlow

def Flow.Holds (f : Flow) (id : String) (n : Node) : Prop :=
  (f.nodes.filter (·.id = id)).getLast? = some n

theorem Flow.findNode?_eq_getLast? (id : String) (nodes : List Node) :
    findNode? id nodes = (nodes.filter (·.id = id)).getLast? := by
  induction nodes with
  | nil => rfl
  | cons n rest ih =>
    rw [findNode?, ih]
    by_cases h : n.id = id
    · rw [List.filter_cons_of_pos (by simpa using h), List.getLast?_cons, if_pos h]
      cases (rest.filter (·.id = id)).getLast? <;> rfl
    · rw [List.filter_cons_of_neg (by simpa using h), if_neg h, Option.or_none]

theorem Flow.node?_eq_some_iff {f : Flow} {id : String} {n : Node} :
    f.node? id = some n ↔ f.Holds id n := by
  rw [node?, findNode?_eq_getLast?, Holds]

theorem Flow.node?_eq_none_iff {f : Flow} {id : String} :
    f.node? id = none ↔ ∀ n ∈ f.nodes, n.id ≠ id := by
  rw [← Option.not_isSome_iff_eq_none, node?_isSome_iff, nodeIds]
  simp

theorem Flow.Holds.mem {f : Flow} {id : String} {n : Node} (h : f.Holds id n) : n ∈ f.nodes :=
  (List.mem_filter.1 (List.mem_of_getLast? h)).1

theorem Flow.Holds.id_eq {f : Flow} {id : String} {n : Node} (h : f.Holds id n) : n.id = id := by
  simpa using (List.mem_filter.1 (List.mem_of_getLast? h)).2

theorem Flow.Holds.unique {f : Flow} {id : String} {n n' : Node} (h : f.Holds id n)
    (h' : f.Holds id n') : n' = n :=
  Option.some.inj (h'.symm.trans h)

structure Place (σ ω : Type) where
  pending : Option String
  context : Context
  session : Session σ ω

namespace Place

variable {σ ω : Type}

def AtEnd (p : Place σ ω) : Prop := ∀ id, p.pending = some id → Text.isBlankText id = true

def Awaits (p : Place σ ω) (id : String) : Prop :=
  p.pending = some id ∧ Text.isBlankText id = false

theorem atEnd_iff {p : Place σ ω} : p.AtEnd ↔ p.pending.bind nonBlank = none := by
  simp [AtEnd, nonBlank, Option.bind_eq_none_iff]

theorem awaits_iff {p : Place σ ω} {id : String} :
    p.Awaits id ↔ p.pending.bind nonBlank = some id := by
  rw [Awaits, Option.bind_eq_some_iff]
  constructor
  · rintro ⟨hp, hb⟩
    exact ⟨id, hp, by simp [nonBlank, hb]⟩
  · rintro ⟨id', hp, hn⟩
    unfold nonBlank at hn
    split at hn
    · cases hn
    · cases hn
      rename_i hb
      exact ⟨hp, Bool.not_eq_true _ ▸ hb⟩

theorem Awaits.not_atEnd {p : Place σ ω} {id : String} (h : p.Awaits id) : ¬ p.AtEnd := by
  intro ended
  have hb := ended id h.1
  rw [h.2] at hb
  cases hb

theorem Awaits.unique {p : Place σ ω} {id id' : String} (h : p.Awaits id) (h' : p.Awaits id') :
    id' = id :=
  Option.some.inj (h'.1.symm.trans h.1)

end Place

namespace Walked

variable {σ ω : Type}

/-- What the end of a walk says of the nodes that were dispatched. -/
structure Accounts (limit dispatched : Nat) (w : Walked σ ω) : Prop where
  finished : w.fault = none → w.steps = dispatched
  exhausted : w.fault = some .stepLimitExceeded → w.steps = limit ∧ dispatched = limit
  lost : ∀ id, w.fault = some (.missingNode id) → w.steps = dispatched + 1
  failed : ∀ fault, w.fault = some (.node fault) → w.steps = dispatched
  bounded : w.steps ≤ limit

def report (w : Walked σ ω) : Option Call :=
  match w.fault with
  | some (.node fault) => some (.dialog Engine.errorDialogTitle (RunFault.node fault).message .long)
  | _ => none

end Walked

namespace Engine

variable {σ ω : Type}

def turnAt (e : Engine σ ω) (f : Flow) (n : Node) (p : Place σ ω) : Turn :=
  e.turn f n p.session.state p.context

def announce (f : Flow) (n : Node) (k : Nat) (s : Session σ ω) : Session σ ω :=
  tell s (nodeLog .debug "Dispatching node" f n ("steps", .integer (k + 1)))

/-- Dispatches a node: what it comes to, and the session after its call. -/
def take (e : Engine σ ω) (f : Flow) (n : Node) (k : Nat) (p : Place σ ω) :
    Except NodeFault Outcome × Session σ ω :=
  e.carryOut (e.turnAt f n p).plan (announce f n k p.session)

def leave (e : Engine σ ω) (t : Turn) (o : Outcome) (p : Place σ ω) (s : Session σ ω) :
    Place σ ω :=
  let c := { p.context with items := o.items }
  ⟨o.next, c, e.trace t c (e.settle o s)⟩

def abandon (e : Engine σ ω) (f : Flow) (n : Node) (fault : NodeFault) (p : Place σ ω)
    (s : Session σ ω) : Session σ ω :=
  e.reportFailure f n (.node fault) (e.trace (e.turnAt f n p) p.context s)

/-- The walk that is at a place after `k` nodes: the turns that are still taken, and its end. The
budget is looked at before the node is looked up, and a blank id before the budget. -/
inductive Walks (e : Engine σ ω) (f : Flow) :
    Nat → Place σ ω → List Turn → Walked σ ω → Prop
  | finished {k : Nat} {p : Place σ ω} (ended : p.AtEnd) :
      Walks e f k p [] ⟨none, k, p.context, p.session⟩
  | exhausted {p : Place σ ω} {id : String} (awaits : p.Awaits id) :
      Walks e f e.settings.maxStepsPerRun p []
        ⟨some .stepLimitExceeded, e.settings.maxStepsPerRun, p.context, p.session⟩
  | lost {k : Nat} {p : Place σ ω} {id : String} (room : k < e.settings.maxStepsPerRun)
      (awaits : p.Awaits id) (absent : ∀ n ∈ f.nodes, n.id ≠ id) :
      Walks e f k p [] ⟨some (.missingNode id), k + 1, p.context, p.session⟩
  | failed {k : Nat} {p : Place σ ω} {id : String} {n : Node} {fault : NodeFault}
      {s : Session σ ω} (room : k < e.settings.maxStepsPerRun) (awaits : p.Awaits id)
      (holds : f.Holds id n) (taken : e.take f n k p = (.error fault, s)) :
      Walks e f k p [e.turnAt f n p]
        ⟨some (.node fault), k + 1, p.context, e.abandon f n fault p s⟩
  | onward {k : Nat} {p : Place σ ω} {id : String} {n : Node} {o : Outcome} {s : Session σ ω}
      {turns : List Turn} {w : Walked σ ω} (room : k < e.settings.maxStepsPerRun)
      (awaits : p.Awaits id) (holds : f.Holds id n) (taken : e.take f n k p = (.ok o, s))
      (rest : Walks e f (k + 1) (e.leave (e.turnAt f n p) o p s) turns w) :
      Walks e f k p (e.turnAt f n p :: turns) w

variable {e : Engine σ ω} {f : Flow}

theorem visit_of_take_ok {n : Node} {k : Nat} {p : Place σ ω} {o : Outcome} {s : Session σ ω}
    (taken : e.take f n k p = (.ok o, s)) :
    e.visit f n p.context (announce f n k p.session) =
      (.ok (o.next.bind nonBlank), (e.leave (e.turnAt f n p) o p s).context,
        (e.leave (e.turnAt f n p) o p s).session) := by
  have hc : e.carryOut (e.turn f n (announce f n k p.session).state p.context).plan
      (announce f n k p.session) = (.ok o, s) := taken
  simp only [visit_eq, hc]
  rfl

theorem visit_of_take_error {n : Node} {k : Nat} {p : Place σ ω} {fault : NodeFault}
    {s : Session σ ω} (taken : e.take f n k p = (.error fault, s)) :
    e.visit f n p.context (announce f n k p.session) =
      (.error fault, p.context, e.trace (e.turnAt f n p) p.context s) := by
  have hc : e.carryOut (e.turn f n (announce f n k p.session).state p.context).plan
      (announce f n k p.session) = (.error fault, s) := taken
  simp only [visit_eq, hc]
  rfl

/-- One round of the walk that an engine carries out, after which it goes on. -/
theorem walk_of_take_ok {id : String} {n : Node} {k : Nat} {p : Place σ ω} {o : Outcome}
    {s : Session σ ω} (holds : f.Holds id n) (taken : e.take f n k p = (.ok o, s)) (b : Nat) :
    e.walk f (b + 1) k (some id) p.context p.session =
      e.walk f b (k + 1) (o.next.bind nonBlank) (e.leave (e.turnAt f n p) o p s).context
        (e.leave (e.turnAt f n p) o p s).session := by
  have hv := visit_of_take_ok taken
  rw [announce] at hv
  simp only [walk, Flow.node?_eq_some_iff.2 holds, hv]

/-- The last round of the walk that an engine carries out, when a node fails. -/
theorem walk_of_take_error {id : String} {n : Node} {k : Nat} {p : Place σ ω}
    {fault : NodeFault} {s : Session σ ω} (holds : f.Holds id n)
    (taken : e.take f n k p = (.error fault, s)) (b : Nat) :
    e.walk f (b + 1) k (some id) p.context p.session =
      ⟨some (.node fault), k + 1, p.context, e.abandon f n fault p s⟩ := by
  have hv := visit_of_take_error taken
  rw [announce] at hv
  simp only [walk, Flow.node?_eq_some_iff.2 holds, hv]
  rfl

/-- A walk is what the engine carries out with the budget that is left. -/
theorem Walks.walk_eq {k : Nat} {p : Place σ ω} {turns : List Turn} {w : Walked σ ω}
    (h : e.Walks f k p turns w) :
    e.walk f (e.settings.maxStepsPerRun - k) k (p.pending.bind nonBlank) p.context p.session =
      w := by
  -- Room for a node means that the budget is a successor, which is what the recursion looks at.
  induction h with
  | finished ended => rw [Place.atEnd_iff.1 ended, walk]
  | exhausted awaits => rw [Place.awaits_iff.1 awaits, Nat.sub_self, walk]
  | lost room awaits absent =>
    obtain ⟨b, hb⟩ := Nat.exists_eq_add_one_of_ne_zero (Nat.sub_ne_zero_of_lt room)
    rw [Place.awaits_iff.1 awaits, hb, walk, Flow.node?_eq_none_iff.2 absent]
  | failed room awaits holds taken =>
    obtain ⟨b, hb⟩ := Nat.exists_eq_add_one_of_ne_zero (Nat.sub_ne_zero_of_lt room)
    rw [Place.awaits_iff.1 awaits, hb, walk_of_take_error holds taken]
  | @onward k _ _ _ _ _ _ _ room awaits holds taken _ ih =>
    obtain ⟨b, hb⟩ := Nat.exists_eq_add_one_of_ne_zero (Nat.sub_ne_zero_of_lt room)
    have hb' : e.settings.maxStepsPerRun - (k + 1) = b := by omega
    rw [hb'] at ih
    rw [Place.awaits_iff.1 awaits, hb, walk_of_take_ok holds taken]
    exact ih

/-- From every place within the budget there is a walk to an end. -/
theorem exists_walks (e : Engine σ ω) (f : Flow) (b k : Nat) (p : Place σ ω)
    (hb : k + b = e.settings.maxStepsPerRun) : ∃ turns w, e.Walks f k p turns w := by
  induction b generalizing k p with
  | zero =>
    cases hp : p.pending.bind nonBlank with
    | none => exact ⟨[], _, .finished (Place.atEnd_iff.2 hp)⟩
    | some id =>
      have hk : k = e.settings.maxStepsPerRun := hb
      subst hk
      exact ⟨[], _, .exhausted (Place.awaits_iff.2 hp)⟩
  | succ b ih =>
    have room : k < e.settings.maxStepsPerRun := by omega
    cases hp : p.pending.bind nonBlank with
    | none => exact ⟨[], _, .finished (Place.atEnd_iff.2 hp)⟩
    | some id =>
      have awaits := Place.awaits_iff.2 hp
      cases hn : f.node? id with
      | none => exact ⟨[], _, .lost room awaits (Flow.node?_eq_none_iff.1 hn)⟩
      | some n =>
        have holds := Flow.node?_eq_some_iff.1 hn
        cases ht : e.take f n k p with
        | mk r s =>
          cases r with
          | error fault => exact ⟨_, _, .failed room awaits holds ht⟩
          | ok o =>
            obtain ⟨turns, w, rest⟩ := ih (k + 1) (e.leave (e.turnAt f n p) o p s) (by omega)
            exact ⟨_, w, .onward room awaits holds ht rest⟩

/-- From a place there is only one walk. -/
theorem Walks.unique {k : Nat} {p : Place σ ω} {turns turns' : List Turn} {w w' : Walked σ ω}
    (h : e.Walks f k p turns w) (h' : e.Walks f k p turns' w') : turns' = turns ∧ w' = w := by
  -- The second walk is at the same place: the id, the budget and the node leave it one rule.
  induction h generalizing turns' w' with
  | finished ended =>
    cases h' with
    | finished _ => exact ⟨rfl, rfl⟩
    | exhausted awaits => exact absurd ended awaits.not_atEnd
    | lost _ awaits _ => exact absurd ended awaits.not_atEnd
    | failed _ awaits _ _ => exact absurd ended awaits.not_atEnd
    | onward _ awaits _ _ _ => exact absurd ended awaits.not_atEnd
  | exhausted awaits =>
    cases h' with
    | finished ended => exact absurd ended awaits.not_atEnd
    | exhausted _ => exact ⟨rfl, rfl⟩
    | lost room _ _ => exact absurd room (Nat.lt_irrefl _)
    | failed room _ _ _ => exact absurd room (Nat.lt_irrefl _)
    | onward room _ _ _ _ => exact absurd room (Nat.lt_irrefl _)
  | lost room awaits absent =>
    cases h' with
    | finished ended => exact absurd ended awaits.not_atEnd
    | exhausted _ => exact absurd room (Nat.lt_irrefl _)
    | lost _ awaits' _ =>
      cases awaits.unique awaits'
      exact ⟨rfl, rfl⟩
    | failed _ awaits' holds _ =>
      cases awaits.unique awaits'
      exact absurd holds.id_eq (absent _ holds.mem)
    | onward _ awaits' holds _ _ =>
      cases awaits.unique awaits'
      exact absurd holds.id_eq (absent _ holds.mem)
  | failed room awaits holds taken =>
    cases h' with
    | finished ended => exact absurd ended awaits.not_atEnd
    | exhausted _ => exact absurd room (Nat.lt_irrefl _)
    | lost _ awaits' absent =>
      cases awaits.unique awaits'
      exact absurd holds.id_eq (absent _ holds.mem)
    | failed _ awaits' holds' taken' =>
      cases awaits.unique awaits'
      cases holds.unique holds'
      cases taken.symm.trans taken'
      exact ⟨rfl, rfl⟩
    | onward _ awaits' holds' taken' _ =>
      cases awaits.unique awaits'
      cases holds.unique holds'
      cases taken.symm.trans taken'
  | onward room awaits holds taken _ ih =>
    cases h' with
    | finished ended => exact absurd ended awaits.not_atEnd
    | exhausted _ => exact absurd room (Nat.lt_irrefl _)
    | lost _ awaits' absent =>
      cases awaits.unique awaits'
      exact absurd holds.id_eq (absent _ holds.mem)
    | failed _ awaits' holds' taken' =>
      cases awaits.unique awaits'
      cases holds.unique holds'
      cases taken.symm.trans taken'
    | onward _ awaits' holds' taken' rest' =>
      cases awaits.unique awaits'
      cases holds.unique holds'
      cases taken.symm.trans taken'
      obtain ⟨rfl, rfl⟩ := ih rest'
      exact ⟨rfl, rfl⟩

/-- Every turn of a walk is one of a node of the flow. -/
theorem Walks.exists_turnAt {k : Nat} {p : Place σ ω} {turns : List Turn} {w : Walked σ ω}
    (h : e.Walks f k p turns w) {t : Turn} (ht : t ∈ turns) :
    ∃ n ∈ f.nodes, ∃ q : Place σ ω, t = e.turnAt f n q := by
  induction h with
  | finished _ => cases ht
  | exhausted _ => cases ht
  | lost _ _ _ => cases ht
  | failed _ _ holds _ =>
    cases List.mem_singleton.1 ht
    exact ⟨_, holds.mem, _, rfl⟩
  | onward _ _ holds _ _ ih =>
    rcases List.mem_cons.1 ht with rfl | ht
    · exact ⟨_, holds.mem, _, rfl⟩
    · exact ih ht

/-- A walk counts the nodes it dispatches, and a missing one besides. -/
theorem Walks.accounts {k : Nat} {p : Place σ ω} {turns : List Turn} {w : Walked σ ω}
    (h : e.Walks f k p turns w) (hk : k ≤ e.settings.maxStepsPerRun) :
    w.Accounts e.settings.maxStepsPerRun (k + turns.length) := by
  induction h with
  | finished _ =>
    exact
      { finished := fun _ => rfl
        exhausted := fun h => by cases h
        lost := fun _ h => by cases h
        failed := fun _ h => by cases h
        bounded := hk }
  | exhausted _ =>
    exact
      { finished := fun h => by cases h
        exhausted := fun _ => ⟨rfl, rfl⟩
        lost := fun _ h => by cases h
        failed := fun _ h => by cases h
        bounded := hk }
  | lost room _ _ =>
    exact
      { finished := fun h => by cases h
        exhausted := fun h => by cases h
        lost := fun _ _ => rfl
        failed := fun _ h => by cases h
        bounded := room }
  | failed room _ _ _ =>
    exact
      { finished := fun h => by cases h
        exhausted := fun h => by cases h
        lost := fun _ h => by cases h
        failed := fun _ _ => rfl
        bounded := room }
  | @onward k _ _ _ _ _ turns _ room _ _ _ _ ih =>
    have hl : k + (turns.length + 1) = k + 1 + turns.length := by omega
    rw [List.length_cons, hl]
    exact ih room

/-- A dispatch makes the call that the plan of the node names, and no other. -/
theorem calls_of_take {n : Node} {k : Nat} {p : Place σ ω} {r : Except NodeFault Outcome}
    {s : Session σ ω} (h : e.take f n k p = (r, s)) :
    s.journal.calls = p.session.journal.calls ++ (e.turnAt f n p).plan.call?.toList := by
  have hs : s = (e.take f n k p).2 := by rw [h]
  rw [hs, take, calls_carryOut, announce, calls_tell]

theorem state_of_take {n : Node} {k : Nat} {p : Place σ ω} {r : Except NodeFault Outcome}
    {s : Session σ ω} (h : e.take f n k p = (r, s)) : s.state = p.session.state := by
  have hs : s = (e.take f n k p).2 := by rw [h]
  rw [hs, take, state_carryOut, announce, state_tell]

theorem leaves_of_carryOut {p : Plan} {o : Outcome} {s s' : Session σ ω}
    (h : e.carryOut p s = (.ok o, s')) : p.Leaves o := by
  cases p with
  | fail fault => cases h
  | done o' =>
    cases h
    exact .done o
  | ask c resume =>
    rcases ha : e.ask c s with ⟨_ | a, s''⟩
    · rw [carryOut, ha] at h
      cases h
    · rw [carryOut, ha] at h
      cases h
      exact .answered c resume a

theorem leaves_of_take {n : Node} {k : Nat} {p : Place σ ω} {o : Outcome} {s : Session σ ω}
    (h : e.take f n k p = (.ok o, s)) : (e.turnAt f n p).plan.Leaves o :=
  leaves_of_carryOut h

/-- A walk whose turns write nothing keeps the state. -/
theorem Walks.state_eq {k : Nat} {p : Place σ ω} {turns : List Turn} {w : Walked σ ω}
    (h : e.Walks f k p turns w)
    (inert : ∀ t ∈ turns, ∀ o, t.plan.Leaves o → o.writes = []) :
    w.session.state = p.session.state := by
  induction h with
  | finished _ => rfl
  | exhausted _ => rfl
  | lost _ _ _ => rfl
  | failed _ _ _ taken => simp only [abandon, state_reportFailure, state_trace, state_of_take taken]
  | onward _ _ _ taken _ ih =>
    rw [ih fun t ht => inert t (List.mem_cons_of_mem _ ht)]
    simp only [leave, state_trace, state_settle, state_of_take taken]
    rw [inert _ List.mem_cons_self _ (leaves_of_take taken)]
    rfl

/-- A walk makes the calls of its turns in order, and one more to report a failed node. -/
theorem Walks.calls {k : Nat} {p : Place σ ω} {turns : List Turn} {w : Walked σ ω}
    (h : e.Walks f k p turns w) :
    w.session.journal.calls =
      p.session.journal.calls ++ turns.filterMap (·.plan.call?) ++ w.report.toList := by
  induction h with
  | finished _ => simp [Walked.report]
  | exhausted _ => simp [Walked.report]
  | lost _ _ _ => simp [Walked.report]
  | failed _ _ _ taken =>
    simp only [abandon, calls_reportFailure, calls_trace, calls_of_take taken, Walked.report,
      Option.toList_some, List.filterMap_cons, List.filterMap_nil]
    cases (Turn.plan _).call? <;> rfl
  | onward _ _ _ taken _ ih =>
    rw [ih]
    simp only [leave, calls_trace, calls_settle, calls_of_take taken, List.filterMap_cons]
    cases (Turn.plan _).call? <;> simp

end Engine
end PluginFlow
