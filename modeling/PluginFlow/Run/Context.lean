import PluginFlow.Flow.Definition

/-!
What a run works on and what it leaves: the context of a trigger, the result, and the record kept
of it.
-/

namespace PluginFlow

structure Context where
  targetId : Option String := none
  data : KeyMap Value := .empty
  /-- The working rows. Without rows of its own a run starts with one empty row. -/
  items : List Item := [.empty]
  deriving DecidableEq

namespace Context

instance : Inhabited Context := ⟨{}⟩

def firstItem? (c : Context) : Option Item := c.items.head?

end Context

structure RunRecord where
  flowId : String
  triggerType : TriggerType
  ok : Bool
  steps : Nat
  durationMs : Nat
  error : Option String := none
  deriving DecidableEq

structure RunResult where
  ok : Bool
  flowId : String
  triggerType : TriggerType
  steps : Nat
  durationMs : Nat
  error : Option String := none
  items : List Item := []
  deriving DecidableEq

def RunResult.record (r : RunResult) : RunRecord :=
  { flowId := r.flowId, triggerType := r.triggerType, ok := r.ok, steps := r.steps,
    durationMs := r.durationMs, error := r.error }

end PluginFlow
