import PluginFlow.Proofs.Run

/-!
The books of a session: the windows of admission and the history. Nodes never reach them. A run is
counted when it asks for admission and recorded when it ends, however it ends.
-/

namespace PluginFlow

structure Session.SameBooks {σ ω : Type} (s s' : Session σ ω) : Prop where
  limiter : s'.limiter = s.limiter
  history : s'.history = s.history

namespace Session.SameBooks

variable {σ ω : Type} {s s' s'' : Session σ ω}

theorem refl (s : Session σ ω) : s.SameBooks s := ⟨rfl, rfl⟩

theorem trans (h : s.SameBooks s') (h' : s'.SameBooks s'') : s.SameBooks s'' :=
  ⟨h'.limiter.trans h.limiter, h'.history.trans h.history⟩

end Session.SameBooks

namespace Engine

variable {σ ω : Type} {e : Engine σ ω} {f : Flow}

theorem sameBooks_ask (c : Call) (s : Session σ ω) : s.SameBooks (e.ask c s).2 := ⟨rfl, rfl⟩

theorem sameBooks_carryOut (p : Plan) (s : Session σ ω) : s.SameBooks (e.carryOut p s).2 := by
  cases p with
  | fail f => exact .refl s
  | done o => exact .refl s
  | ask c resume =>
    rw [session_carryOut_ask]
    exact sameBooks_ask c s

theorem sameBooks_settle (o : Outcome) (s : Session σ ω) : s.SameBooks (e.settle o s) := by
  obtain ⟨j, hj⟩ := e.exists_journal_foldl_note o.notes s
  rw [settle, hj]
  exact ⟨rfl, rfl⟩

theorem sameBooks_trace (t : Turn) (c : Context) (s : Session σ ω) :
    s.SameBooks (e.trace t c s) := by
  obtain ⟨j, hj⟩ := e.exists_journal_trace t c s
  rw [hj]
  exact ⟨rfl, rfl⟩

theorem sameBooks_reportFailure (n : Node) (fault : RunFault) (s : Session σ ω) :
    s.SameBooks (e.reportFailure f n fault s) := by
  unfold reportFailure
  simp only
  split
  · rename_i heq
    exact ⟨(congrArg (·.2.limiter) heq).symm, (congrArg (·.2.history) heq).symm⟩
  · rename_i heq
    exact ⟨(congrArg (·.2.limiter) heq).symm, (congrArg (·.2.history) heq).symm⟩

theorem sameBooks_of_take {n : Node} {k : Nat} {p : Place σ ω} {r : Except NodeFault Outcome}
    {s : Session σ ω} (h : e.take f n k p = (r, s)) : p.session.SameBooks s := by
  have told : p.session.SameBooks (announce f n k p.session) := ⟨rfl, rfl⟩
  have hs : s = (e.take f n k p).2 := by rw [h]
  rw [hs]
  exact told.trans (sameBooks_carryOut (e.turnAt f n p).plan (announce f n k p.session))

/-- The nodes of a run never reach the books. -/
theorem Walks.sameBooks {k : Nat} {p : Place σ ω} {turns : List Turn} {w : Walked σ ω}
    (h : e.Walks f k p turns w) : p.session.SameBooks w.session := by
  induction h with
  | finished _ => exact .refl _
  | exhausted _ => exact .refl _
  | lost _ _ _ => exact .refl _
  | failed _ _ _ taken =>
    exact ((sameBooks_of_take taken).trans (sameBooks_trace _ _ _)).trans
      (sameBooks_reportFailure _ _ _)
  | onward _ _ _ taken _ ih =>
    exact (((sameBooks_of_take taken).trans (sameBooks_settle _ _)).trans
      (sameBooks_trace _ _ _)).trans ih

/-- What a run does between its entry and its end leaves the books as its entry has left them. -/
theorem Runs.sameBooks {trigger : Trigger} {c : Context} {s : Session σ ω} {turns : List Turn}
    {w : Walked σ ω} (h : e.Runs f trigger c s turns w) :
    (e.enter f trigger c s).2.SameBooks w.session := by
  cases h with
  | rejected _ => exact ⟨rfl, rfl⟩
  | admitted _ walks => exact walks.sameBooks

theorem limiter_finish (trigger : Trigger) (started : Nat) (w : Walked σ ω) :
    (e.finish f trigger started w).2.limiter = w.session.limiter := by
  unfold finish
  simp only
  split <;> rfl

/-- The end of a run puts the record of its result into the history. -/
theorem history_finish (trigger : Trigger) (started : Nat) (w : Walked σ ω) :
    (e.finish f trigger started w).2.history =
      w.session.history.push (e.finish f trigger started w).1.record := by
  unfold finish
  simp only
  split <;> rfl

/-- A run counts once, when it asks for admission. -/
theorem limiter_execute (e : Engine σ ω) (f : Flow) (trigger : Trigger) (c : Context)
    (s : Session σ ω) :
    (e.execute f trigger c s).2.limiter =
      (s.limiter.acquire (runKey f trigger c) trigger.type (e.now s).1).2 := by
  obtain ⟨turns, w, h⟩ := exists_runs e f trigger c s
  rw [h.execute_eq, limiter_finish, h.sameBooks.limiter]
  rfl

/-- A run is recorded once, when it ends. -/
theorem history_execute (e : Engine σ ω) (f : Flow) (trigger : Trigger) (c : Context)
    (s : Session σ ω) :
    (e.execute f trigger c s).2.history =
      s.history.push (e.execute f trigger c s).1.record := by
  obtain ⟨turns, w, h⟩ := exists_runs e f trigger c s
  rw [h.execute_eq, history_finish, h.sameBooks.history]
  rfl

end Engine
end PluginFlow
