import PluginFlow.Config.Form
import PluginFlow.Proofs.Atomicity
import PluginFlow.Proofs.Completion
import PluginFlow.Proofs.Outcome

/-!
Settings that passed their check. No node fails for them: it lacks a param, or the platform broke
off. But the check does not ask whether there is room for the history, without which no engine
starts.
-/

namespace PluginFlow

namespace Settings

theorem fault?_of_ofText? {bytes : Json.Bytes} {s : Settings} (accepted : ofText? bytes = .ok s) :
    s.fault? = none := by
  unfold ofText? at accepted
  split at accepted
  · cases accepted
  · split at accepted
    · cases accepted
    · cases accepted
      assumption

theorem historyCapacity_pos {s : Settings} (sound : s.fault? = none) : 0 < s.historyCapacity := by
  unfold fault? at sound
  split at sound
  · cases sound
  split at sound
  · cases sound
  · omega

end Settings

/-- With sound settings a node fails by itself only for want of a param. -/
theorem Turn.missingParam_of_plan_eq_fail {t : Turn} (sound : t.settings.fault? = none)
    {fault : NodeFault} (failed : t.plan = .fail fault) :
    ∃ key, fault = .missingParam t.node.id key ∧ t.param? key = none := by
  cases hk : NodeKind.ofName? t.node.type with
  | none => simp [plan, hk, passOver] at failed
  | some k =>
    obtain ⟨p, -, -, -, absent, blamed⟩ := lacks_param_of_plan_eq_fail sound hk failed
    exact ⟨p.key, blamed, absent⟩

namespace Engine

variable {σ ω : Type} {e : Engine σ ω} {f : Flow}

theorem start?_isSome_iff (state : KeyMap Value) (world : σ) (journal : Journal ω) :
    (e.start? state world journal).isSome ↔
      max e.settings.historyCapacity 1 * History.recordBytes ≤ History.largestAllocation := by
  unfold start? History.ofCapacity?
  split <;> simp [*]

/-- A walk that ends with a failed node ends at a call that the platform has broken off. -/
theorem Walks.broken_off {k : Nat} {p : Place σ ω} {turns : List Turn} {w : Walked σ ω}
    (h : e.Walks f k p turns w) (sound : e.settings.fault? = none)
    (broken : w.fault = some (.node .broken)) :
    ∃ before t, turns = before ++ [t] ∧
      ∃ call world, t.plan.call? = some call ∧ (e.platform.respond call world).answer = none := by
  induction h with
  | finished _ => cases broken
  | exhausted _ => cases broken
  | lost _ _ _ => cases broken
  | @failed k p _ n fault s _ _ _ taken =>
    cases broken
    refine ⟨[], e.turnAt f n p, rfl, ?_⟩
    rcases carryOut_eq_error_iff.1 (congrArg (·.1) taken) with failed | ⟨-, call, asked, silent⟩
    · have sound : (e.turnAt f n p).settings.fault? = none := sound
      obtain ⟨_, blamed, -⟩ := Turn.missingParam_of_plan_eq_fail sound failed
      cases blamed
    · exact ⟨call, _, asked, silent⟩
  | @onward k p _ n _ _ _ _ _ _ _ _ _ ih =>
    obtain ⟨before, t, rfl, rest⟩ := ih broken
    exact ⟨e.turnAt f n p :: before, t, rfl, rest⟩

/-- An engine with settings that were read and passed their check starts exactly when its history
can be addressed. Its nodes fail by themselves only for want of a param, whatever the bounds and
limits are, and a run that reports a failed node has ended at a call that the platform broke off. -/
theorem checked_settings_usable (e : Engine σ ω) {bytes : Json.Bytes}
    (accepted : Settings.ofText? bytes = .ok e.settings) :
    (∀ (state : KeyMap Value) (world : σ) (journal : Journal ω),
      (e.start? state world journal).isSome ↔
        e.settings.historyCapacity * History.recordBytes ≤ History.largestAllocation) ∧
    (∀ t : Turn, t.settings = e.settings → ∀ fault, t.plan = .fail fault →
      ∃ key, fault = .missingParam t.node.id key ∧ t.param? key = none) ∧
    ∀ (f : Flow) (trigger : Trigger) (c : Context) (s : Session σ ω),
      (e.execute f trigger c s).1.error = some "node_failed" →
        ∃ before t w, e.Runs f trigger c s (before ++ [t]) w ∧
          ∃ call world, t.plan.call? = some call ∧
            (e.platform.respond call world).answer = none := by
  have sound := Settings.fault?_of_ofText? accepted
  refine ⟨?_, ?_, ?_⟩
  · intro state world journal
    rw [start?_isSome_iff, Nat.max_eq_left (Settings.historyCapacity_pos sound)]
  · intro t configured fault failed
    exact Turn.missingParam_of_plan_eq_fail (configured ▸ sound) failed
  · intro f trigger c s reported
    obtain ⟨turns, w, h⟩ := exists_runs e f trigger c s
    rw [h.result_eq] at reported
    obtain ⟨fault, hf, message⟩ := Option.map_eq_some_iff.1 reported
    have broken : fault = .node .broken := (RunFault.message_eq_iff (by simp)).1 message
    rw [broken] at hf
    have h' := h
    cases h' with
    | rejected _ => cases hf
    | admitted _ walks =>
      obtain ⟨before, t, rfl, rest⟩ := walks.broken_off sound hf
      exact ⟨before, t, w, h, rest⟩

def lengthText (capacity : String) : Json.Bytes :=
  Text.Utf8.encode ("\x7b\"historyCapacity\":" ++ capacity ++ "\x7d")

def breakingBriefly : Engine Unit Unit := { breaking with settings := { historyCapacity := 2 } }

/-- It starts, and a departure that fails on it was broken off by the platform. -/
theorem breakingBriefly_usable :
    (breakingBriefly.start? .empty () ⟨(), []⟩).isSome ∧
      ∃ before t w, breakingBriefly.Runs Flow.departing Flow.onDepart {} .fresh (before ++ [t]) w ∧
        ∃ call world, t.plan.call? = some call ∧
          (breakingBriefly.platform.respond call world).answer = none := by
  have accepted : Settings.ofText? (lengthText "2") = .ok breakingBriefly.settings :=
    Outcome.toOption_eq_some_iff.1 (by decide +kernel)
  obtain ⟨starts, -, fails⟩ := checked_settings_usable breakingBriefly accepted
  exact ⟨(starts .empty () ⟨(), []⟩).2 (by decide), fails _ _ _ _ (by decide +kernel)⟩

def boundless : Engine Unit Unit :=
  { plain with settings := { historyCapacity := 18446744073709551615 } }

/-- It does not start. -/
theorem boundless_never_starts :
    Settings.ofText? (lengthText "18446744073709551615") = .ok boundless.settings ∧
      (boundless.start? .empty () ⟨(), []⟩).isNone :=
  ⟨Outcome.toOption_eq_some_iff.1 (by decide +kernel), by decide⟩

end Engine
end PluginFlow
