import PluginFlow.Proofs.Run

/-!
What a run records. Every event of a run belongs to one of its turns, in their order, or says how
the run ended; a turn records what its node noted and then, if nodes are traced, what it changed.
-/

namespace PluginFlow

def Note.event? : Note → Option Audit.Event
  | .event ev => some ev
  | .log _ => none

def Outcome.events (o : Outcome) : List Audit.Event := o.notes.filterMap Note.event?

namespace Journal

variable {ω : Type}

@[simp] theorem events_called (j : Journal ω) (c : Call) : (j.add (.called c)).events = j.events := by
  simp [events, inOrder, add]

@[simp] theorem events_recorded (j : Journal ω) (ev : Audit.Event) :
    (j.add (.recorded ev)).events = j.events ++ [ev] := by
  simp [events, inOrder, add]

@[simp] theorem events_tell (j : Journal ω) (l : Log) : (j.tell l).events = j.events := by
  simp [events, inOrder, tell, add]

@[simp] theorem events_tellAll (j : Journal ω) (ls : List Log) :
    (j.tellAll ls).events = j.events := by
  unfold tellAll
  induction ls generalizing j with
  | nil => rfl
  | cons l ls ih => rw [List.foldl_cons, ih, events_tell]

theorem events_withTrail (j : Journal ω) (t : ω) :
    ({ j with trail := t } : Journal ω).events = j.events := rfl

/-- An event is recorded once, whether the sink takes it or not. -/
@[simp] theorem events_record (sink : Audit.Sink ω) (source : LogSource) (j : Journal ω)
    (ev : Audit.Event) : (j.record sink source ev).events = j.events ++ [ev] := by
  unfold record
  split
  rename_i outcome trail _
  have recorded : (({ j with trail := trail } : Journal ω).add (.recorded ev)).events =
      j.events ++ [ev] :=
    (events_recorded _ ev).trans (congrArg (· ++ [ev]) (events_withTrail j trail))
  cases outcome with
  | ok _ => exact recorded
  | error f => exact (events_tell _ _).trans recorded

end Journal

namespace Engine

variable {σ ω : Type} (e : Engine σ ω)

@[simp] theorem events_tell (s : Session σ ω) (l : Log) :
    (tell s l).journal.events = s.journal.events :=
  Journal.events_tell s.journal l

@[simp] theorem events_record (s : Session σ ω) (ev : Audit.Event) :
    (e.record s ev).journal.events = s.journal.events ++ [ev] :=
  Journal.events_record e.sink .engine s.journal ev

@[simp] theorem events_ask (c : Call) (s : Session σ ω) :
    (e.ask c s).2.journal.events = s.journal.events := by
  simp [ask]

/-- A plan records nothing by itself. -/
theorem events_carryOut (p : Plan) (s : Session σ ω) :
    (e.carryOut p s).2.journal.events = s.journal.events := by
  cases p with
  | fail f => rfl
  | done o => rfl
  | ask c resume => rw [session_carryOut_ask, events_ask]

theorem events_note (s : Session σ ω) (n : Note) :
    (e.note s n).journal.events = s.journal.events ++ n.event?.toList := by
  cases n with
  | log l => exact (events_tell s l).trans (List.append_nil _).symm
  | event ev => exact e.events_record s ev

theorem events_foldl_note (ns : List Note) (s : Session σ ω) :
    (ns.foldl e.note s).journal.events = s.journal.events ++ ns.filterMap Note.event? := by
  induction ns generalizing s with
  | nil => exact (List.append_nil _).symm
  | cons n ns ih =>
    rw [List.foldl_cons, ih, events_note, List.append_assoc, List.filterMap_cons]
    cases n.event? <;> rfl

@[simp] theorem events_settle (o : Outcome) (s : Session σ ω) :
    (e.settle o s).journal.events = s.journal.events ++ o.events :=
  e.events_foldl_note o.notes s

/-- A trace is recorded when nodes are traced. -/
@[simp] theorem events_trace (t : Turn) (c : Context) (s : Session σ ω) :
    (e.trace t c s).journal.events =
      s.journal.events ++ if e.settings.traceNodes then [e.traceEvent t s.state c] else [] := by
  unfold trace
  split
  · exact e.events_record s _
  · exact (List.append_nil _).symm

@[simp] theorem events_reportFailure (f : Flow) (n : Node) (fault : RunFault) (s : Session σ ω) :
    (e.reportFailure f n fault s).journal.events = s.journal.events := by
  unfold reportFailure
  simp only
  split
  · rename_i heq
    simpa using (congrArg (·.2.journal.events) heq).symm
  · rename_i heq
    simpa using (congrArg (·.2.journal.events) heq).symm

@[simp] theorem events_reject (f : Flow) (trigger : Trigger) (key : String) (s : Session σ ω) :
    (e.reject f trigger key s).journal.events =
      s.journal.events ++ [.rateLimited f.id trigger.type key] := by
  simp [reject]

/-- The end of a run is recorded, unless the run was turned away. -/
theorem events_finish (f : Flow) (trigger : Trigger) (started : Nat) (w : Walked σ ω) :
    (e.finish f trigger started w).2.journal.events =
      w.session.journal.events ++
        if w.fault = some .rateLimited then []
        else [.runFinished (e.finish f trigger started w).1] := by
  unfold finish
  simp only [events_tell]
  split
  · exact (List.append_nil _).symm
  · rw [events_record]
    rfl

end Engine

structure Dispatch where
  turn : Turn
  result : Except NodeFault Outcome

namespace Dispatch

/-- The outcome of a turn is one that its plan can leave. -/
def Possible (d : Dispatch) : Prop := ∀ o, d.result = .ok o → d.turn.plan.Leaves o

/-- The state after a turn. A node that fails leaves the state as it was. -/
def stateAfter (d : Dispatch) : KeyMap Value :=
  match d.result with
  | .ok o => d.turn.state.insertAll o.writes
  | .error _ => d.turn.state

def contextAfter (d : Dispatch) : Context :=
  match d.result with
  | .ok o => { d.turn.context with items := o.items }
  | .error _ => d.turn.context

def noted (d : Dispatch) : List Audit.Event :=
  match d.result with
  | .ok o => o.events
  | .error _ => []

def traced {σ ω : Type} (e : Engine σ ω) (d : Dispatch) : Audit.Event :=
  e.traceEvent d.turn d.stateAfter d.contextAfter

def recorded {σ ω : Type} (e : Engine σ ω) (d : Dispatch) : List Audit.Event :=
  d.noted ++ if e.settings.traceNodes then [d.traced e] else []

end Dispatch

/-- Turns taken one after the other, from a state and a context to those that the last one leaves.
Each turn finds what the one before it left. -/
inductive Leads : KeyMap Value → Context → List Dispatch → KeyMap Value → Context → Prop
  | nil {state : KeyMap Value} {c : Context} : Leads state c [] state c
  | cons {d : Dispatch} {ds : List Dispatch} {state : KeyMap Value} {c : Context}
      (possible : d.Possible) (rest : Leads d.stateAfter d.contextAfter ds state c) :
      Leads d.turn.state d.turn.context (d :: ds) state c

theorem Leads.possible {state state' : KeyMap Value} {c c' : Context} {ds : List Dispatch}
    (h : Leads state c ds state' c') : ∀ d ∈ ds, d.Possible := by
  induction h with
  | nil => simp
  | cons possible _ ih => exact List.forall_mem_cons.2 ⟨possible, ih⟩

namespace Engine

variable {σ ω : Type} {e : Engine σ ω} {f : Flow}

theorem events_of_take {n : Node} {k : Nat} {p : Place σ ω} {r : Except NodeFault Outcome}
    {s : Session σ ω} (h : e.take f n k p = (r, s)) :
    s.journal.events = p.session.journal.events := by
  have hs : s = (e.take f n k p).2 := by rw [h]
  rw [hs, take, events_carryOut, announce, events_tell]

theorem events_leave {n : Node} {k : Nat} {p : Place σ ω} {o : Outcome} {s : Session σ ω}
    (h : e.take f n k p = (.ok o, s)) :
    (e.leave (e.turnAt f n p) o p s).session.journal.events =
      p.session.journal.events ++ Dispatch.recorded e ⟨e.turnAt f n p, .ok o⟩ := by
  simp only [leave, events_trace, events_settle, state_settle, events_of_take h, state_of_take h,
    List.append_assoc]
  rfl

theorem events_abandon {n : Node} {k : Nat} {p : Place σ ω} {fault : NodeFault} {s : Session σ ω}
    (h : e.take f n k p = (.error fault, s)) :
    (e.abandon f n fault p s).journal.events =
      p.session.journal.events ++ Dispatch.recorded e ⟨e.turnAt f n p, .error fault⟩ := by
  simp only [abandon, events_reportFailure, events_trace, events_of_take h, state_of_take h]
  rfl

/-- The turns of a walk lead from its start to its end. It records their events in order, and
nothing else. -/
theorem Walks.exists_leads {k : Nat} {p : Place σ ω} {turns : List Turn} {w : Walked σ ω}
    (h : e.Walks f k p turns w) :
    ∃ ds : List Dispatch, ds.map (·.turn) = turns ∧
      Leads p.session.state p.context ds w.session.state w.context ∧
      w.session.journal.events =
        p.session.journal.events ++ ds.flatMap (Dispatch.recorded e) := by
  induction h with
  | finished _ => exact ⟨[], rfl, .nil, by simp⟩
  | exhausted _ => exact ⟨[], rfl, .nil, by simp⟩
  | lost _ _ _ => exact ⟨[], rfl, .nil, by simp⟩
  | @failed k p _ n fault s _ _ _ taken =>
    have kept : (e.abandon f n fault p s).state = p.session.state := by
      simp only [abandon, state_reportFailure, state_trace, state_of_take taken]
    have possible : Dispatch.Possible ⟨e.turnAt f n p, .error fault⟩ := by
      intro o ho
      cases ho
    refine ⟨[⟨e.turnAt f n p, .error fault⟩], rfl, ?_, ?_⟩
    · rw [kept]
      exact .cons possible .nil
    · rw [List.flatMap_singleton]
      exact events_abandon taken
  | @onward k p _ n o s _ _ _ _ _ taken _ ih =>
    obtain ⟨ds, hd, leads, events⟩ := ih
    have left : (e.leave (e.turnAt f n p) o p s).session.state =
        (e.turnAt f n p).state.insertAll o.writes := by
      simp only [leave, state_trace, state_settle, state_of_take taken]
      rfl
    have possible : Dispatch.Possible ⟨e.turnAt f n p, .ok o⟩ := by
      intro o' ho
      cases ho
      exact leaves_of_take taken
    rw [left] at leads
    refine ⟨⟨e.turnAt f n p, .ok o⟩ :: ds, by rw [List.map_cons, hd], .cons possible leads, ?_⟩
    rw [events, events_leave taken, List.flatMap_cons, List.append_assoc]

def endEvent (e : Engine σ ω) (f : Flow) (trigger : Trigger) (c : Context) (s : Session σ ω) :
    Audit.Event :=
  if (e.enter f trigger c s).1 then .runFinished (e.execute f trigger c s).1
  else .rateLimited f.id trigger.type (runKey f trigger c)

theorem endEvent_type (e : Engine σ ω) (f : Flow) (trigger : Trigger) (c : Context)
    (s : Session σ ω) : (e.endEvent f trigger c s).type ≠ .nodeTrace := by
  unfold endEvent Audit.Event.runFinished
  split
  · dsimp only
    split <;> intro h <;> cases h
  · intro h
    cases h

theorem endEvent_flowId (e : Engine σ ω) (f : Flow) (trigger : Trigger) (c : Context)
    (s : Session σ ω) : (e.endEvent f trigger c s).flowId = f.id := by
  obtain ⟨turns, w, h⟩ := exists_runs e f trigger c s
  rw [endEvent, h.result_eq]
  split
  · rfl
  · rfl

theorem Walks.fault_ne_rateLimited {k : Nat} {p : Place σ ω} {turns : List Turn} {w : Walked σ ω}
    (h : e.Walks f k p turns w) : w.fault ≠ some .rateLimited := by
  induction h with
  | finished _ => intro hf; cases hf
  | exhausted _ => intro hf; cases hf
  | lost _ _ _ => intro hf; cases hf
  | failed _ _ _ _ => intro hf; cases hf
  | onward _ _ _ _ _ ih => exact ih

/-- The turns of a run lead from the state and the context it was given to those it leaves. It
records their events in order and then how it ended. -/
theorem Runs.exists_leads {trigger : Trigger} {c : Context} {s : Session σ ω}
    {turns : List Turn} {w : Walked σ ω} (h : e.Runs f trigger c s turns w) :
    ∃ ds : List Dispatch, ds.map (·.turn) = turns ∧
      Leads s.state c ds w.session.state w.context ∧
      (e.execute f trigger c s).2.journal.events =
        s.journal.events ++ ds.flatMap (Dispatch.recorded e) ++ [e.endEvent f trigger c s] := by
  have he := h.execute_eq
  cases h with
  | rejected full =>
    refine ⟨[], rfl, .nil, ?_⟩
    have hw : (e.turnedAway f trigger c s).session.journal.events =
        s.journal.events ++ [.rateLimited f.id trigger.type (runKey f trigger c)] :=
      e.events_reject f trigger _ _
    have hf : (e.turnedAway f trigger c s).fault = some .rateLimited := rfl
    rw [he, events_finish, if_pos hf, hw, endEvent, full]
    simp
  | admitted free walks =>
    obtain ⟨ds, hd, leads, events⟩ := walks.exists_leads
    refine ⟨ds, hd, leads, ?_⟩
    have start : (e.startPlace f trigger c s).session.journal.events = s.journal.events := rfl
    rw [he, events_finish, if_neg walks.fault_ne_rateLimited, events, start, endEvent, free, he]
    rfl

theorem Runs.exists_dispatches {trigger : Trigger} {c : Context} {s : Session σ ω}
    {turns : List Turn} {w : Walked σ ω} (h : e.Runs f trigger c s turns w) :
    ∃ ds : List Dispatch, ds.map (·.turn) = turns ∧ (∀ d ∈ ds, d.Possible) ∧
      (e.execute f trigger c s).2.journal.events =
        s.journal.events ++ ds.flatMap (Dispatch.recorded e) ++ [e.endEvent f trigger c s] := by
  obtain ⟨ds, hd, leads, events⟩ := h.exists_leads
  exact ⟨ds, hd, leads.possible, events⟩

end Engine

namespace Turn

/-- An event of a capability that was used or of a destination that was refused, in the name of the
node. -/
def Attributes (t : Turn) (ev : Audit.Event) : Prop :=
  (∃ destination reason, ev = .policyBlocked t.flowId t.node.id destination reason) ∨
    ∃ capability outcome, ev = .capabilityUsed t.flowId t.node.id capability outcome

theorem Attributes.type_ne {t : Turn} {ev : Audit.Event} (h : t.Attributes ev) :
    ev.type ≠ .nodeTrace := by
  rcases h with ⟨destination, reason, rfl⟩ | ⟨capability, outcome, rfl⟩
  · intro h
    cases h
  · intro h
    cases h

def Attributed (t : Turn) (o : Outcome) : Prop :=
  o.events = [] ∨ ∃ ev, t.Attributes ev ∧ o.events = [ev]

theorem attributed_used (t : Turn) (capability outcome : String)
    (writes : List (String × Value)) :
    t.Attributed (t.outcome [t.used capability outcome] writes) :=
  .inr ⟨_, .inr ⟨capability, outcome, rfl⟩, rfl⟩

theorem attributed_failure (t : Turn) (message capability : String) (f : CapabilityFault)
    (writes : List (String × Value)) :
    t.Attributed (t.outcome (t.failure message capability f) writes) :=
  .inr ⟨_, .inr ⟨capability, f.message, rfl⟩, rfl⟩

theorem attributed_refusal (t : Turn) (message destination : String) (v : Net.Violation)
    (writes : List (String × Value)) :
    t.Attributed (t.outcome (t.refusal message destination v) writes) :=
  .inr ⟨_, .inl ⟨t.redactor.truncate destination, v.name, rfl⟩, rfl⟩

theorem curl_attributed (t : Turn) : t.curl.Always t.Attributed := by
  rcases t.curl_cases with ⟨-, h⟩ | ⟨v, -, h⟩ | ⟨u, timeout, maxBytes, -, -, -, h⟩
  · rw [h]
    exact Plan.always_fail
  · rw [h]
    exact Plan.always_done.2 (t.attributed_refusal _ _ v _)
  · rw [h]
    refine Plan.always_ask.2 fun a => ?_
    cases a with
    | ok r => exact t.attributed_used _ _ _
    | error f => exact t.attributed_failure _ _ f _

theorem ping_attributed (t : Turn) : t.ping.Always t.Attributed := by
  rcases t.ping_cases with ⟨-, h⟩ | ⟨v, -, h⟩ | ⟨timeout, -, -, h⟩
  · rw [h]
    exact Plan.always_fail
  · rw [h]
    exact Plan.always_done.2 (t.attributed_refusal _ _ v _)
  · rw [h]
    refine Plan.always_ask.2 fun a => ?_
    cases a with
    | ok latency => exact t.attributed_used _ _ _
    | error f => exact t.attributed_failure _ _ f _

theorem captureImage_attributed (t : Turn) : t.captureImage.Always t.Attributed := by
  refine Plan.always_ask.2 fun a => ?_
  cases a with
  | ok bytes => exact t.attributed_used _ _ _
  | error f => exact t.attributed_failure _ _ f _

/-- Only nodes that store the state, use the network or the camera note an event. -/
theorem plan_quiet {t : Turn} (h₁ : NodeKind.ofName? t.node.type ≠ some .persistState)
    (h₂ : NodeKind.ofName? t.node.type ≠ some .curl)
    (h₃ : NodeKind.ofName? t.node.type ≠ some .ping)
    (h₄ : NodeKind.ofName? t.node.type ≠ some .captureImage) : t.plan.Always (·.events = []) := by
  unfold plan
  split
  case h_1 => exact Plan.always_done.2 rfl
  case h_2 => exact Plan.always_require.2 fun _ _ => Plan.always_done.2 rfl
  case h_3 => exact Plan.always_done.2 rfl
  case h_4 => exact Plan.always_require.2 fun _ _ => Plan.always_done.2 rfl
  case h_5 => exact Plan.always_require.2 fun _ _ => Plan.always_done.2 rfl
  case h_6 => exact Plan.always_require.2 fun _ _ => Plan.always_ask.2 fun _ => rfl
  case h_7 => exact Plan.always_require.2 fun _ _ => Plan.always_ask.2 fun _ => rfl
  case h_8 => exact Plan.always_require.2 fun _ _ => Plan.always_ask.2 fun _ => rfl
  case h_9 => exact Plan.always_require.2 fun _ _ => Plan.always_ask.2 fun _ => rfl
  case h_10 => exact Plan.always_done.2 rfl
  case h_15 => exact Plan.always_done.2 rfl
  all_goals contradiction

/-- A node notes at most one event, and that in its own name. -/
theorem plan_attributed (t : Turn) : t.plan.Always t.Attributed := by
  by_cases h₁ : NodeKind.ofName? t.node.type = some .persistState
  · simp only [plan, h₁]
    exact Plan.always_ask.2 fun _ => t.attributed_used _ _ _
  by_cases h₂ : NodeKind.ofName? t.node.type = some .curl
  · simp only [plan, h₂]
    exact t.curl_attributed
  by_cases h₃ : NodeKind.ofName? t.node.type = some .ping
  · simp only [plan, h₃]
    exact t.ping_attributed
  by_cases h₄ : NodeKind.ofName? t.node.type = some .captureImage
  · simp only [plan, h₄]
    exact t.captureImage_attributed
  exact fun o leaves => .inl (plan_quiet h₁ h₂ h₃ h₄ o leaves)

end Turn
end PluginFlow
