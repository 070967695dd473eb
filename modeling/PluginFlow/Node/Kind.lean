import PluginFlow.Catalog.Builtin
import PluginFlow.Node.Display
import PluginFlow.Node.Remote
import PluginFlow.Node.Rows

/-!
What each type of node does. A type that is not known here is told about and passed over,
whether the catalog declares it or not.
-/

namespace PluginFlow

def Handler.passOver (t : Turn) : Script (Option String) := do
  .say (t.log .warn "Unknown node type, continuing" "node_type" t.node.type)
  return t.node.next

namespace Turn

def handle (t : Turn) : Script (Option String) :=
  match NodeKind.ofName? t.node.type with
  | some .ifElse => Handler.ifElse t
  | some .setField => Handler.setField t
  | some .filter => Handler.filter t
  | some .setState => Handler.setState t
  | some .increment => Handler.increment t
  | some .showToast => Handler.showToast t
  | some .showDialog => Handler.showDialog t
  | some .navigate => Handler.navigate t
  | some .showImage => Handler.showImage t
  | some .emitMessage => Handler.emitMessage t
  | some .persistState => Handler.persistState t
  | some .curl => Handler.curl t
  | some .ping => Handler.ping t
  | some .captureImage => Handler.captureImage t
  | none => Handler.passOver t

/-- State keys whose values a trace of this node never shows. -/
def sensitiveKeys (t : Turn) : List String :=
  match NodeKind.ofName? t.node.type with
  | some .curl => [t.bodyKey]
  | some .captureImage => [t.imageKey]
  | _ => []

end Turn
end PluginFlow
