/-!
Why a node fails and why a run ends before its time.
-/

namespace PluginFlow

/-- Why a node fails: a param that it cannot do without, or a part that broke off. -/
inductive NodeFault
  | missingParam (nodeId key : String)
  | broken
  deriving DecidableEq

def NodeFault.message : NodeFault → String
  | missingParam nodeId key => "node '" ++ nodeId ++ "' missing param '" ++ key ++ "'"
  | broken => "node_failed"

inductive RunFault
  | rateLimited
  | stepLimitExceeded
  | missingNode (id : String)
  | node (f : NodeFault)
  deriving DecidableEq

def RunFault.message : RunFault → String
  | rateLimited => "rate_limited"
  | stepLimitExceeded => "step_limit_exceeded"
  | missingNode id => "missing_node:" ++ id
  | node f => f.message

/-- A message without a name in it is that of one reason only. -/
theorem RunFault.message_eq_iff {fault plain : RunFault}
    (h : plain ∈ [rateLimited, stepLimitExceeded, node .broken]) :
    fault.message = plain.message ↔ fault = plain := by
  have differ (i : Nat) {s t : String} (h : s.toList[i]? ≠ t.toList[i]?) : s ≠ t :=
    fun heq => h (congrArg (·.toList[i]?) heq)
  refine ⟨fun same => ?_, congrArg message⟩
  simp only [List.mem_cons, List.not_mem_nil, or_false] at h
  cases fault with
  | rateLimited => rcases h with rfl | rfl | rfl <;> simp [message, NodeFault.message] at same ⊢
  | stepLimitExceeded =>
    rcases h with rfl | rfl | rfl <;> simp [message, NodeFault.message] at same ⊢
  | missingNode id =>
    rcases h with rfl | rfl | rfl <;>
      exact absurd same (differ 0 (by simp [message, NodeFault.message]))
  | node f =>
    cases f with
    | missingParam nodeId key =>
      -- All begin with a word of four letters, but only this one goes on with a blank.
      rcases h with rfl | rfl | rfl <;>
        exact absurd same (differ 4 (by simp [message, NodeFault.message]))
    | broken => rcases h with rfl | rfl | rfl <;> simp [message, NodeFault.message] at same ⊢

end PluginFlow
