import Mathlib.Data.List.Forall2
import PluginFlow.Proofs.Trail

/-!
The form of the trail of a run. A run that is turned away records that alone. Every other run records
a block for each of its turns, in their order, and then how it ended; all of it in the name of its
flow, and all of it handed to the sink.
-/

namespace PluginFlow

namespace Journal

variable {ω : Type} {sink : Audit.Sink ω} {j j' j'' : Journal ω}

/-- The second journal goes on from the first: the events that it has more were handed to the sink
one after the other. -/
def Continues (sink : Audit.Sink ω) (j j' : Journal ω) : Prop :=
  ∃ events, j'.events = j.events ++ events ∧
    j'.trail = events.foldl (fun trail ev => (sink.record ev trail).2) j.trail

theorem Continues.of_eq (events : j'.events = j.events) (trail : j'.trail = j.trail) :
    j.Continues sink j' :=
  ⟨[], by rw [events, List.append_nil], trail⟩

theorem Continues.refl (j : Journal ω) : j.Continues sink j := .of_eq rfl rfl

theorem Continues.trans (h : j.Continues sink j') (h' : j'.Continues sink j'') :
    j.Continues sink j'' := by
  obtain ⟨first, events, trail⟩ := h
  obtain ⟨second, events', trail'⟩ := h'
  refine ⟨first ++ second, ?_, ?_⟩
  · rw [events', events, List.append_assoc]
  · rw [trail', trail, List.foldl_append]

theorem continues_tell (j : Journal ω) (l : Log) : j.Continues sink (j.tell l) :=
  .of_eq (events_tell j l) rfl

theorem continues_tellAll (j : Journal ω) (ls : List Log) : j.Continues sink (j.tellAll ls) := by
  unfold tellAll
  induction ls generalizing j with
  | nil => exact .refl j
  | cons l ls ih => exact (continues_tell j l).trans (ih (j.tell l))

theorem continues_called (j : Journal ω) (c : Call) : j.Continues sink (j.add (.called c)) :=
  .of_eq (events_called j c) rfl

theorem continues_record (source : LogSource) (j : Journal ω) (ev : Audit.Event) :
    j.Continues sink (j.record sink source ev) := by
  refine ⟨[ev], events_record sink source j ev, ?_⟩
  unfold record
  split
  rename_i outcome trail recorded
  have handed : trail = (sink.record ev j.trail).2 := by rw [recorded]
  cases outcome with
  | ok _ => exact handed
  | error f => exact handed

end Journal

namespace Engine

variable {σ ω : Type} (e : Engine σ ω)

def Hands (s s' : Session σ ω) : Prop := s.journal.Continues e.sink s'.journal

theorem hands_tell (s : Session σ ω) (l : Log) : e.Hands s (tell s l) :=
  Journal.continues_tell s.journal l

theorem hands_record (s : Session σ ω) (ev : Audit.Event) : e.Hands s (e.record s ev) :=
  Journal.continues_record .engine s.journal ev

theorem hands_ask (c : Call) (s : Session σ ω) : e.Hands s (e.ask c s).2 :=
  (Journal.continues_called s.journal c).trans (Journal.continues_tellAll _ _)

theorem hands_carryOut (p : Plan) (s : Session σ ω) : e.Hands s (e.carryOut p s).2 := by
  cases p with
  | fail f => exact .refl s.journal
  | done o => exact .refl s.journal
  | ask c resume =>
    rw [session_carryOut_ask]
    exact e.hands_ask c s

theorem hands_foldl_note (ns : List Note) (s : Session σ ω) :
    e.Hands s (ns.foldl e.note s) := by
  induction ns generalizing s with
  | nil => exact .refl s.journal
  | cons n ns ih =>
    have first : e.Hands s (e.note s n) := by
      cases n with
      | log l => exact e.hands_tell s l
      | event ev => exact e.hands_record s ev
    exact first.trans (ih (e.note s n))

theorem hands_settle (o : Outcome) (s : Session σ ω) : e.Hands s (e.settle o s) :=
  e.hands_foldl_note o.notes s

theorem hands_trace (t : Turn) (c : Context) (s : Session σ ω) : e.Hands s (e.trace t c s) := by
  unfold trace
  split
  · exact e.hands_record s _
  · exact .refl s.journal

theorem hands_reportFailure (f : Flow) (n : Node) (fault : RunFault) (s : Session σ ω) :
    e.Hands s (e.reportFailure f n fault s) := by
  unfold reportFailure
  simp only
  have told := e.hands_tell s (nodeLog .error "Node failed" f n ("error", .text fault.message))
  have asked := told.trans (e.hands_ask (.dialog errorDialogTitle fault.message .long) _)
  split
  · rename_i heq
    rw [heq] at asked
    exact asked
  · rename_i heq
    rw [heq] at asked
    exact asked.trans (Journal.continues_tell _ _)

theorem hands_finish (f : Flow) (trigger : Trigger) (started : Nat) (w : Walked σ ω) :
    e.Hands w.session (e.finish f trigger started w).2 := by
  unfold finish
  simp only
  split
  · exact e.hands_tell _ _
  · exact (e.hands_record _ _).trans (e.hands_tell _ _)

variable {e} {f : Flow}

theorem hands_of_take {n : Node} {k : Nat} {p : Place σ ω} {r : Except NodeFault Outcome}
    {s : Session σ ω} (h : e.take f n k p = (r, s)) : e.Hands p.session s := by
  have hs : s = (e.take f n k p).2 := by rw [h]
  rw [hs]
  exact (e.hands_tell p.session _).trans (e.hands_carryOut _ _)

theorem Walks.hands {k : Nat} {p : Place σ ω} {turns : List Turn} {w : Walked σ ω}
    (h : e.Walks f k p turns w) : e.Hands p.session w.session := by
  induction h with
  | finished _ => exact .refl _
  | exhausted _ => exact .refl _
  | lost _ _ _ => exact .refl _
  | failed _ _ _ taken =>
    exact ((hands_of_take taken).trans (e.hands_trace _ _ _)).trans
      (e.hands_reportFailure _ _ _ _)
  | onward _ _ _ taken _ ih =>
    exact (((hands_of_take taken).trans (e.hands_settle _ _)).trans (e.hands_trace _ _ _)).trans ih

/-- All that a run records goes to the sink. -/
theorem Runs.hands {trigger : Trigger} {c : Context} {s : Session σ ω} {turns : List Turn}
    {w : Walked σ ω} (h : e.Runs f trigger c s turns w) :
    e.Hands s (e.execute f trigger c s).2 := by
  rw [h.execute_eq]
  refine Journal.Continues.trans ?_ (e.hands_finish f trigger _ w)
  cases h with
  | rejected _ => exact (e.hands_tell _ _).trans (e.hands_record _ _)
  | admitted _ walks => exact walks.hands

end Engine

/-- The events of one turn: at most one of a capability that was used or of a destination that was
refused, and then, if nodes are traced, a trace, all in the name of the node. -/
def Turn.Records (traced : Bool) (t : Turn) (events : List Audit.Event) : Prop :=
  ∃ noted stateChanges itemChanges, (noted = [] ∨ ∃ ev, t.Attributes ev ∧ noted = [ev]) ∧
    events = noted ++ if traced then
      [.nodeTrace t.flowId t.node.id t.node.type stateChanges itemChanges] else []

theorem Dispatch.records {σ ω : Type} {e : Engine σ ω} {d : Dispatch} (possible : d.Possible) :
    d.turn.Records e.settings.traceNodes (d.recorded e) := by
  refine ⟨d.noted, _, _, ?_, rfl⟩
  cases hr : d.result with
  | error fault => exact .inl (by rw [noted, hr])
  | ok o =>
    have one : d.noted = o.events := by rw [noted, hr]
    rw [one]
    exact d.turn.plan_attributed o (possible o hr)

namespace Turn

variable {t : Turn} {traced : Bool} {events : List Audit.Event}

theorem Records.flowId_eq (h : t.Records traced events) : ∀ ev ∈ events, ev.flowId = t.flowId := by
  obtain ⟨noted, stateChanges, itemChanges, quiet, rfl⟩ := h
  intro ev hev
  rcases List.mem_append.1 hev with hn | ht
  · rcases quiet with rfl | ⟨ev', attributed, rfl⟩
    · cases hn
    · cases List.mem_singleton.1 hn
      rcases attributed with ⟨_, _, rfl⟩ | ⟨_, _, rfl⟩ <;> rfl
  · split at ht
    · cases List.mem_singleton.1 ht
      rfl
    · cases ht

theorem Records.count_trace (h : t.Records true events) :
    (events.filter (·.type = .nodeTrace)).length = 1 := by
  obtain ⟨noted, stateChanges, itemChanges, quiet, rfl⟩ := h
  have silent : noted.filter (·.type = .nodeTrace) = [] := by
    rcases quiet with rfl | ⟨ev, attributed, rfl⟩
    · rfl
    · simp [attributed.type_ne]
  rw [List.filter_append, silent]
  rfl

/-- Blocks of turns of one flow are in its name. -/
theorem flowId_of_blocks {id : String} {turns : List Turn} {blocks : List (List Audit.Event)}
    (h : List.Forall₂ (Records traced) turns blocks) (ours : ∀ t ∈ turns, t.flowId = id) :
    ∀ ev ∈ blocks.flatten, ev.flowId = id := by
  induction h with
  | nil => simp
  | cons first _ ih =>
    rw [List.forall_mem_cons] at ours
    intro ev hev
    rw [List.flatten_cons, List.mem_append] at hev
    rcases hev with here | there
    · exact (first.flowId_eq ev here).trans ours.1
    · exact ih ours.2 ev there

/-- Blocks with traces have one for each turn. -/
theorem count_traces_blocks {turns : List Turn} {blocks : List (List Audit.Event)}
    (h : List.Forall₂ (Records true) turns blocks) :
    (blocks.flatten.filter (·.type = .nodeTrace)).length = turns.length := by
  induction h with
  | nil => rfl
  | cons first _ ih =>
    rw [List.flatten_cons, List.filter_append, List.length_append, first.count_trace, ih,
      List.length_cons, Nat.add_comm]

end Turn

namespace Engine

variable {σ ω : Type}

theorem Runs.flowId_eq {e : Engine σ ω} {f : Flow} {trigger : Trigger} {c : Context}
    {s : Session σ ω} {turns : List Turn} {w : Walked σ ω} (h : e.Runs f trigger c s turns w) :
    ∀ t ∈ turns, t.flowId = f.id := by
  intro t ht
  obtain ⟨n, -, p, rfl⟩ := h.exists_turnAt ht
  rfl

/-- The steps of a run that is let through are its turns, and one more when no node is found. -/
theorem Runs.steps_eq {e : Engine σ ω} {f : Flow} {trigger : Trigger} {c : Context}
    {s : Session σ ω} {turns : List Turn} {w : Walked σ ω} (h : e.Runs f trigger c s turns w)
    (free : (e.enter f trigger c s).1 = true) :
    ((∃ id, w.fault = some (.missingNode id)) → w.steps = turns.length + 1) ∧
      ((¬ ∃ id, w.fault = some (.missingNode id)) → w.steps = turns.length) := by
  cases h with
  | rejected full =>
    rw [full] at free
    cases free
  | admitted _ walks =>
    have accounts := Nat.zero_add turns.length ▸ walks.accounts (Nat.zero_le _)
    refine ⟨fun ⟨id, lost⟩ => accounts.lost id lost, fun found => ?_⟩
    cases hf : w.fault with
    | none => exact accounts.finished hf
    | some fault =>
      cases fault with
      | rateLimited => exact absurd hf walks.fault_ne_rateLimited
      | stepLimitExceeded =>
        obtain ⟨steps, dispatched⟩ := accounts.exhausted hf
        rw [steps, dispatched]
      | missingNode id => exact absurd ⟨id, hf⟩ found
      | node fault => exact accounts.failed fault hf

/-- A run records a block for each of its turns, and then its end. -/
theorem Runs.exists_blocks {e : Engine σ ω} {f : Flow} {trigger : Trigger} {c : Context}
    {s : Session σ ω} {turns : List Turn} {w : Walked σ ω} (h : e.Runs f trigger c s turns w) :
    ∃ blocks, List.Forall₂ (Turn.Records e.settings.traceNodes) turns blocks ∧
      (e.execute f trigger c s).2.journal.events =
        s.journal.events ++ (blocks.flatten ++ [e.endEvent f trigger c s]) := by
  obtain ⟨ds, hd, leads, recorded⟩ := h.exists_leads
  rw [List.append_assoc, List.flatMap_def] at recorded
  refine ⟨ds.map (Dispatch.recorded e), ?_, recorded⟩
  rw [← hd, List.forall₂_map_left_iff, List.forall₂_map_right_iff, List.forall₂_same]
  exact fun d hmem => Dispatch.records (leads.possible d hmem)

/-- The blocks of traced turns hold one trace each, and the end of a run is none. -/
theorem count_traces {e : Engine σ ω} {f : Flow} {trigger : Trigger} {c : Context}
    {s : Session σ ω} {turns : List Turn} {blocks : List (List Audit.Event)}
    (records : List.Forall₂ (Turn.Records true) turns blocks) :
    ((blocks.flatten ++ [e.endEvent f trigger c s]).filter (·.type = .nodeTrace)).length =
      turns.length := by
  rw [List.filter_append, List.length_append, Turn.count_traces_blocks records,
    List.filter_cons_of_neg (by simpa using e.endEvent_type f trigger c s), List.filter_nil]
  rfl

/-- The events of a run are handed to the sink in one order and in the name of its flow. A run that
is turned away records only that. Every other run records a block for each of its turns and then
its end, so that with nodes traced there are as many traces as steps, or one less when the last
step found no node. -/
theorem execute_trail (e : Engine σ ω) (f : Flow) (trigger : Trigger) (c : Context)
    (s : Session σ ω) :
    ∃ turns w events, e.Runs f trigger c s turns w ∧
      (e.execute f trigger c s).2.journal.events = s.journal.events ++ events ∧
      (e.execute f trigger c s).2.journal.trail =
        events.foldl (fun trail ev => (e.sink.record ev trail).2) s.journal.trail ∧
      (∀ ev ∈ events, ev.flowId = f.id) ∧
      ((e.enter f trigger c s).1 = false →
        events = [.rateLimited f.id trigger.type (runKey f trigger c)]) ∧
      ((e.enter f trigger c s).1 = true →
        (∃ blocks, List.Forall₂ (Turn.Records e.settings.traceNodes) turns blocks ∧
          events = blocks.flatten ++
            [{ type := if (e.execute f trigger c s).1.ok then .runCompleted else .runFailed,
               flowId := f.id, trigger := some trigger.type.name,
               details := .run (e.execute f trigger c s).1.steps
                 (e.execute f trigger c s).1.durationMs (e.execute f trigger c s).1.error }]) ∧
        (e.execute f trigger c s).1.error = w.fault.map RunFault.message ∧
        (e.settings.traceNodes = true →
          ((∃ id, w.fault = some (.missingNode id)) →
            (events.filter (·.type = .nodeTrace)).length + 1 =
              (e.execute f trigger c s).1.steps) ∧
          ((¬ ∃ id, w.fault = some (.missingNode id)) →
            (events.filter (·.type = .nodeTrace)).length =
              (e.execute f trigger c s).1.steps))) := by
  obtain ⟨turns, w, h⟩ := exists_runs e f trigger c s
  obtain ⟨blocks, records, recorded⟩ := h.exists_blocks
  obtain ⟨events, handed, trail⟩ := h.hands
  obtain rfl := List.append_cancel_left (handed.symm.trans recorded)
  refine ⟨turns, w, _, h, recorded, trail, ?_, ?_, ?_⟩
  · intro ev hev
    rcases List.mem_append.1 hev with block | last
    · exact Turn.flowId_of_blocks records h.flowId_eq ev block
    · cases List.mem_singleton.1 last
      exact e.endEvent_flowId f trigger c s
  · intro full
    cases h with
    | rejected _ =>
      cases List.forall₂_nil_left_iff.1 records
      rw [endEvent, full]
      rfl
    | admitted free _ =>
      rw [full] at free
      cases free
  · intro free
    have last : e.endEvent f trigger c s = .runFinished (e.execute f trigger c s).1 := if_pos free
    refine ⟨⟨_, records, by rw [last, h.result_eq]; rfl⟩, by rw [h.result_eq]; rfl, ?_⟩
    intro traced
    rw [traced] at records
    have steps : (e.execute f trigger c s).1.steps = w.steps := by
      rw [h.result_eq]
      rfl
    rw [count_traces records, steps]
    exact ⟨fun lost => ((h.steps_eq free).1 lost).symm,
      fun found => ((h.steps_eq free).2 found).symm⟩

end Engine
end PluginFlow
