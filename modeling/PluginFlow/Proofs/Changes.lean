import PluginFlow.Proofs.Atomicity
import PluginFlow.Proofs.Redaction

/-!
No change of the state goes untraced. What a run changes from its start to its end has been changed
by one of its turns, and the trace of that turn names the key, however the run ends.
-/

namespace PluginFlow

/-- Numbers are equal when they stand at one place. -/
theorem Number.equals_iff {a b : Number} :
    a.equals b = true ↔ ∃ x, a.position? = some x ∧ b.position? = some x := by
  unfold equals related
  split
  · rename_i x y ha hb
    simp only [ha, hb, Option.some.injEq, exists_eq_left', beq_iff_eq]
    exact eq_comm
  · rename_i apart
    simp only [Bool.false_eq_true, false_iff, not_exists, not_and]
    exact fun x ha hb => apart x x ha hb

theorem Number.equals_trans {a b c : Number} (h : a.equals b = true) (h' : b.equals c = true) :
    a.equals c = true := by
  obtain ⟨x, ha, hb⟩ := equals_iff.1 h
  obtain ⟨y, hb', hc⟩ := equals_iff.1 h'
  cases hb.symm.trans hb'
  exact equals_iff.2 ⟨x, ha, hc⟩

namespace Value

theorem agrees_trans {a b c : Value} (h : a.agrees b = true) (h' : b.agrees c = true) :
    a.agrees c = true := by
  cases a <;> cases b <;> cases c <;> simp_all [agrees]
  exact Number.equals_trans h h'

theorem agreesOptional_trans {a b c : Option Value} (h : agreesOptional a b = true)
    (h' : agreesOptional b c = true) : agreesOptional a c = true := by
  cases a <;> cases b <;> cases c <;> simp_all [agreesOptional]
  exact agrees_trans h h'

/-- The same value or equal values, or no value twice. A number that is not equal to itself is
still the same; the two zeros are equal. -/
def Same (a b : Option Value) : Prop := a = b ∨ agreesOptional a b = true

instance (a b : Option Value) : Decidable (Same a b) := inferInstanceAs (Decidable (_ ∨ _))

theorem Same.trans {a b c : Option Value} (h : Same a b) (h' : Same b c) : Same a c := by
  rcases h with rfl | h
  · exact h'
  · rcases h' with rfl | h'
    · exact .inr h
    · exact .inr (agreesOptional_trans h h')

end Value

namespace Redactor

theorem mem_mergeKeys {key : String} {xs ys : List String} :
    key ∈ mergeKeys xs ys ↔ key ∈ xs ∨ key ∈ ys := by
  fun_induction mergeKeys xs ys with
  | case1 ys => simp
  | case2 xs _ => simp
  | case3 x xs y ys _ ih => simp only [List.mem_cons, ih, or_assoc]
  | case4 xs x ys _ ih =>
    simp only [List.mem_cons, ih]
    grind
  | case5 x xs y ys _ _ ih =>
    simp only [List.mem_cons, ih]
    grind

/-- A difference names exactly the keys whose values do not agree. -/
theorem mem_keys_diff_iff {r : Redactor} {before after : KeyMap Value} {extra : List String}
    {key : String} :
    key ∈ (r.diff before after extra).map (·.key) ↔
      Value.agreesOptional (before.get? key) (after.get? key) = false := by
  simp only [diff, List.map_map, Function.comp_def, List.map_id', List.mem_filter, mem_mergeKeys,
    KeyMap.mem_keys_iff, Bool.not_eq_true']
  constructor
  · exact fun h => h.2
  · intro h
    refine ⟨?_, h⟩
    cases hb : before.get? key with
    | some v => exact .inl rfl
    | none =>
      cases ha : after.get? key with
      | some v => exact .inr rfl
      | none => rw [hb, ha] at h; cases h

end Redactor

/-- What is not the same at the end of turns as at their start was changed by one of them. -/
theorem Leads.exists_change {state state' : KeyMap Value} {c c' : Context} {ds : List Dispatch}
    {key : String} (h : Leads state c ds state' c')
    (changed : ¬ Value.Same (state.get? key) (state'.get? key)) :
    ∃ d ∈ ds, ¬ Value.Same (d.turn.state.get? key) (d.stateAfter.get? key) := by
  induction h with
  | nil => exact absurd (.inl rfl) changed
  | @cons d ds state' c' _ _ ih =>
    by_cases kept : Value.Same (d.turn.state.get? key) (d.stateAfter.get? key)
    · obtain ⟨later, hd, hc⟩ := ih fun rest => changed (kept.trans rest)
      exact ⟨later, List.mem_cons_of_mem _ hd, hc⟩
    · exact ⟨d, List.mem_cons_self, kept⟩

/-- A change that a turn made is named in its trace. -/
theorem Dispatch.mem_stateChanges {σ ω : Type} {e : Engine σ ω} {d : Dispatch} {key : String}
    (changed : ¬ Value.Same (d.turn.state.get? key) (d.stateAfter.get? key)) :
    key ∈ (d.stateChanges e).map (·.key) :=
  Redactor.mem_keys_diff_iff.2 (Bool.eq_false_iff.2 fun agree => changed (.inr agree))

namespace Engine

variable {σ ω : Type}

/-- Every key whose value or presence is not the same after a run as before is named among the
changes of the state in one of its traces, if nodes are traced. -/
theorem execute_traces_changes (e : Engine σ ω) (traced : e.settings.traceNodes = true) (f : Flow)
    (trigger : Trigger) (c : Context) (s : Session σ ω) :
    ∃ events, (e.execute f trigger c s).2.journal.events = s.journal.events ++ events ∧
      ∀ key, ¬ Value.Same (s.state.get? key) ((e.execute f trigger c s).2.state.get? key) →
        ∃ nodeId nodeType stateChanges itemChanges,
          .nodeTrace f.id nodeId nodeType stateChanges itemChanges ∈ events ∧
            key ∈ stateChanges.map (·.key) := by
  obtain ⟨turns, w, h⟩ := exists_runs e f trigger c s
  obtain ⟨ds, rfl, leads, recorded⟩ := h.exists_leads
  rw [List.append_assoc] at recorded
  refine ⟨_, recorded, ?_⟩
  intro key changed
  rw [h.state_eq] at changed
  obtain ⟨d, hd, moved⟩ := leads.exists_change changed
  obtain ⟨n, -, p, place⟩ := h.exists_turnAt (List.mem_map_of_mem hd)
  have ours : d.turn.flowId = f.id := by
    rw [place]
    rfl
  refine ⟨d.turn.node.id, d.turn.node.type, d.stateChanges e, d.itemChanges e, ?_,
    Dispatch.mem_stateChanges moved⟩
  rw [← ours, ← Dispatch.traced_eq]
  refine List.mem_append_left _ (List.mem_flatMap.2 ⟨d, hd, List.mem_append_right _ ?_⟩)
  rw [if_pos traced]
  exact List.mem_singleton_self _

/-- The bag that was packed is in a trace although the run was broken off. -/
theorem departing_traces_bag :
    ∃ nodeId nodeType stateChanges itemChanges,
      .nodeTrace "departing" nodeId nodeType stateChanges itemChanges ∈
          (breaking.execute Flow.departing Flow.onDepart {} .fresh).2.journal.events ∧
        "bag" ∈ stateChanges.map (·.key) := by
  obtain ⟨events, recorded, named⟩ :=
    execute_traces_changes breaking rfl Flow.departing Flow.onDepart {} .fresh
  have start : Session.fresh.journal.events = [] := rfl
  rw [recorded, start, List.nil_append]
  exact named "bag" (by decide +kernel)

end Engine
end PluginFlow
