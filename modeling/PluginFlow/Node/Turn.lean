import PluginFlow.Catalog.Spec
import PluginFlow.Condition
import PluginFlow.Config.Settings
import PluginFlow.Flow.Definition
import PluginFlow.Node.Script
import PluginFlow.Redaction
import PluginFlow.Template

/-!
A node's turn in a run: everything that it can see, and how it reads its params.
-/

namespace PluginFlow

structure Turn where
  registry : Registry
  assets : AssetTable
  settings : Settings
  flowId : String
  node : Node
  state : KeyMap Value
  context : Context

namespace Turn

/-- A param: the value in the flow unless it is null, else the one that the catalog declares. -/
def param? (t : Turn) (key : String) : Option Value :=
  ((t.node.params.get? key).filter fun v => !v.isNull).or (t.registry.default? t.node.type key)

def param (t : Turn) (key : String) : Value := (t.param? key).getD .null

/-- The text of a param that is used as it stands, or another text when it is blank. -/
def textParam (t : Turn) (key fallback : String) : String :=
  (((t.param? key).map Value.toText).filter fun s => !Text.isBlankText s).getD fallback

def required (t : Turn) (key : String) : Except NodeFault Value :=
  match t.param? key with
  | some v => .ok v
  | none => .error (.missingParam t.node.id key)

def scope (t : Turn) : Scope := { state := t.state, context := t.context, assets := t.assets }

def firstItem? (t : Turn) : Option Item := t.context.firstItem?

/-- What a value stands for, with the first row as the current one. -/
def resolve (t : Turn) (raw : Value) : Value := t.scope.resolve t.firstItem? raw

def integerParam? (t : Turn) (key : String) : Option Int :=
  (t.param? key).bind fun raw => (t.resolve raw).asInteger?

def fill (t : Turn) (text : String) : String := render text t.state

def filledParam (t : Turn) (key : String) : String :=
  t.fill (t.scope.resolve none (t.param key)).toText

def redactor (t : Turn) : Redactor := .ofSettings t.settings.redaction

def log (t : Turn) (level : Level) (message : String) (field value : String) : Note :=
  .log ⟨level, .nodes, message,
    [("flow_id", .text t.flowId), ("node_id", .text t.node.id), (field, .text value)]⟩

def used (t : Turn) (capability outcome : String) : Note :=
  .event (.capabilityUsed t.flowId t.node.id capability outcome)

end Turn
end PluginFlow
