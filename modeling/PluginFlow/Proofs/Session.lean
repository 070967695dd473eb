import PluginFlow.Proofs.NodePlans

/-!
What the parts of a run do to a session. Telling, recording, tracing and ending leave the plugin
state and the calls alone; a plan adds the call it makes; only what a node leaves is written.
-/

namespace PluginFlow

namespace Journal

variable {ω : Type}

@[simp] theorem calls_called (j : Journal ω) (c : Call) :
    (j.add (.called c)).calls = j.calls ++ [c] := by
  simp [calls, inOrder, add]

@[simp] theorem calls_recorded (j : Journal ω) (e : Audit.Event) :
    (j.add (.recorded e)).calls = j.calls := by
  simp [calls, inOrder, add]

@[simp] theorem calls_tell (j : Journal ω) (l : Log) : (j.tell l).calls = j.calls := by
  simp [calls, inOrder, tell, add]

@[simp] theorem calls_tellAll (j : Journal ω) (ls : List Log) : (j.tellAll ls).calls = j.calls := by
  unfold tellAll
  induction ls generalizing j with
  | nil => rfl
  | cons l ls ih => rw [List.foldl_cons, ih, calls_tell]

theorem calls_withTrail (j : Journal ω) (t : ω) :
    ({ j with trail := t } : Journal ω).calls = j.calls := rfl

@[simp] theorem calls_record (sink : Audit.Sink ω) (source : LogSource) (j : Journal ω)
    (e : Audit.Event) : (j.record sink source e).calls = j.calls := by
  unfold record
  split
  rename_i outcome trail _
  cases outcome with
  | ok _ => exact (calls_recorded _ e).trans (calls_withTrail j trail)
  | error f => exact (calls_tell _ _).trans ((calls_recorded _ e).trans (calls_withTrail j trail))

end Journal

namespace Engine

variable {σ ω : Type} (e : Engine σ ω)

@[simp] theorem state_tell (s : Session σ ω) (l : Log) : (tell s l).state = s.state := rfl

@[simp] theorem calls_tell (s : Session σ ω) (l : Log) :
    (tell s l).journal.calls = s.journal.calls :=
  Journal.calls_tell s.journal l

@[simp] theorem state_record (s : Session σ ω) (event : Audit.Event) :
    (e.record s event).state = s.state := rfl

@[simp] theorem calls_record (s : Session σ ω) (event : Audit.Event) :
    (e.record s event).journal.calls = s.journal.calls :=
  Journal.calls_record e.sink .engine s.journal event

@[simp] theorem state_ask (c : Call) (s : Session σ ω) : (e.ask c s).2.state = s.state := rfl

@[simp] theorem calls_ask (c : Call) (s : Session σ ω) :
    (e.ask c s).2.journal.calls = s.journal.calls ++ [c] := by
  simp [ask]

@[simp] theorem state_now (s : Session σ ω) : (e.now s).2.state = s.state := rfl

@[simp] theorem calls_now (s : Session σ ω) : (e.now s).2.journal.calls = s.journal.calls := rfl

theorem session_carryOut_ask (c : Call) (resume : c.Answer → Outcome) (s : Session σ ω) :
    (e.carryOut (.ask c resume) s).2 = (e.ask c s).2 := by
  cases h : e.ask c s with
  | mk answer s' => cases answer <;> simp [carryOut, h]

theorem carryOut_of_answer {c : Call} {resume : c.Answer → Outcome} {s : Session σ ω}
    {a : c.Answer} (answered : (e.platform.respond c s.world).answer = some a) :
    e.carryOut (.ask c resume) s = (.ok (resume a), (e.ask c s).2) := by
  have asked : e.ask c s = (some a, (e.ask c s).2) := Prod.ext answered rfl
  rw [carryOut, asked]

/-- A plan changes nothing by itself, whether it comes to an outcome or breaks off. -/
theorem state_carryOut (p : Plan) (s : Session σ ω) : (e.carryOut p s).2.state = s.state := by
  cases p with
  | fail f => rfl
  | done o => rfl
  | ask c resume => rw [session_carryOut_ask, state_ask]

/-- A plan makes the call it names, also when the platform breaks off, and no other. -/
theorem calls_carryOut (p : Plan) (s : Session σ ω) :
    (e.carryOut p s).2.journal.calls = s.journal.calls ++ p.call?.toList := by
  cases p with
  | fail f => exact (List.append_nil _).symm
  | done o => exact (List.append_nil _).symm
  | ask c resume =>
    rw [session_carryOut_ask, calls_ask]
    rfl

@[simp] theorem state_note (s : Session σ ω) (n : Note) : (e.note s n).state = s.state := by
  cases n <;> rfl

@[simp] theorem calls_note (s : Session σ ω) (n : Note) :
    (e.note s n).journal.calls = s.journal.calls := by
  cases n with
  | log l => exact calls_tell s l
  | event event => exact e.calls_record s event

/-- Notes only reach the journal. -/
theorem exists_journal_foldl_note (ns : List Note) (s : Session σ ω) :
    ∃ j, ns.foldl e.note s = { s with journal := j } := by
  induction ns generalizing s with
  | nil => exact ⟨s.journal, rfl⟩
  | cons n ns ih =>
    obtain ⟨j, hj⟩ := ih (e.note s n)
    refine ⟨j, ?_⟩
    rw [List.foldl_cons, hj]
    cases n <;> rfl

@[simp] theorem state_foldl_note (ns : List Note) (s : Session σ ω) :
    (ns.foldl e.note s).state = s.state := by
  obtain ⟨j, hj⟩ := e.exists_journal_foldl_note ns s
  rw [hj]

@[simp] theorem calls_foldl_note (ns : List Note) (s : Session σ ω) :
    (ns.foldl e.note s).journal.calls = s.journal.calls := by
  induction ns generalizing s with
  | nil => rfl
  | cons n ns ih => rw [List.foldl_cons, ih, calls_note]

@[simp] theorem state_settle (o : Outcome) (s : Session σ ω) :
    (e.settle o s).state = s.state.insertAll o.writes := by
  simp only [settle, state_foldl_note]

@[simp] theorem calls_settle (o : Outcome) (s : Session σ ω) :
    (e.settle o s).journal.calls = s.journal.calls :=
  e.calls_foldl_note o.notes s

/-- A trace only reaches the journal. -/
theorem exists_journal_trace (t : Turn) (c : Context) (s : Session σ ω) :
    ∃ j, e.trace t c s = { s with journal := j } := by
  unfold trace
  split
  · exact ⟨_, rfl⟩
  · exact ⟨s.journal, rfl⟩

@[simp] theorem state_trace (t : Turn) (c : Context) (s : Session σ ω) :
    (e.trace t c s).state = s.state := by
  obtain ⟨j, hj⟩ := e.exists_journal_trace t c s
  rw [hj]

@[simp] theorem calls_trace (t : Turn) (c : Context) (s : Session σ ω) :
    (e.trace t c s).journal.calls = s.journal.calls := by
  unfold trace
  split
  · exact e.calls_record s _
  · rfl

@[simp] theorem state_reportFailure (f : Flow) (n : Node) (fault : RunFault) (s : Session σ ω) :
    (e.reportFailure f n fault s).state = s.state := by
  unfold reportFailure
  simp only
  split
  · rename_i heq
    exact (congrArg (·.2.state) heq).symm
  · rename_i heq
    exact (congrArg (·.2.state) heq).symm

/-- A failure is reported by one dialog, told about when it breaks off itself. -/
@[simp] theorem calls_reportFailure (f : Flow) (n : Node) (fault : RunFault) (s : Session σ ω) :
    (e.reportFailure f n fault s).journal.calls =
      s.journal.calls ++ [.dialog errorDialogTitle fault.message .long] := by
  unfold reportFailure
  simp only
  split
  · rename_i heq
    simpa using (congrArg (·.2.journal.calls) heq).symm
  · rename_i heq
    simpa using (congrArg (·.2.journal.calls) heq).symm

@[simp] theorem state_permit (key : String) (trigger : Trigger) (now : Nat) (s : Session σ ω) :
    (permit key trigger now s).2.state = s.state := rfl

@[simp] theorem calls_permit (key : String) (trigger : Trigger) (now : Nat) (s : Session σ ω) :
    (permit key trigger now s).2.journal.calls = s.journal.calls := rfl

@[simp] theorem state_reject (f : Flow) (trigger : Trigger) (key : String) (s : Session σ ω) :
    (e.reject f trigger key s).state = s.state := rfl

@[simp] theorem calls_reject (f : Flow) (trigger : Trigger) (key : String) (s : Session σ ω) :
    (e.reject f trigger key s).journal.calls = s.journal.calls := by
  simp [reject]

@[simp] theorem state_finish (f : Flow) (trigger : Trigger) (started : Nat) (w : Walked σ ω) :
    (e.finish f trigger started w).2.state = w.session.state := by
  unfold finish
  simp only [state_tell]
  split <;> rfl

@[simp] theorem calls_finish (f : Flow) (trigger : Trigger) (started : Nat) (w : Walked σ ω) :
    (e.finish f trigger started w).2.journal.calls = w.session.journal.calls := by
  unfold finish
  simp only [calls_tell]
  split
  · rfl
  · rw [calls_record]
    rfl

end Engine
end PluginFlow
