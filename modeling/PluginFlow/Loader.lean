import PluginFlow.Audit.Journal
import PluginFlow.Files.Basic
import PluginFlow.Flow.Form
import PluginFlow.Validation

/-!
Loading of flows. A text is read and checked once; only flows without errors reach an engine.
-/

namespace PluginFlow

structure LoadedFlow where
  definition : Flow
  grants : Grants
  warnings : List Issue
  hash : String

inductive LoadFault
  | unreadable (path : String) (f : FileFault)
  | malformed (f : Json.Fault)
  | invalid (flowId : String) (errors : List Issue)

namespace LoadFault

def message : LoadFault → String
  | unreadable path f => "Failed to read flow file " ++ path ++ ": " ++ f.message
  | malformed f => "Failed to parse flow: " ++ f.message
  | invalid flowId errors =>
    "Flow '" ++ flowId ++ "' failed validation: " ++ "; ".intercalate (errors.map Issue.message)

def cause? : LoadFault → Option String
  | unreadable _ f => some f.message
  | malformed f => some f.message
  | invalid .. => none

end LoadFault

structure Loader (ω : Type) where
  registry : Registry
  sink : Audit.Sink ω

namespace Loader

variable {ω : Type}

def describe (l : Loader ω) : String :=
  "FlowLoader \x7b node_types: " ++ Number.intText l.registry.size ++ ", .. \x7d"

def acceptedLogs (f : Flow) (warnings : List Issue) (hash : String) : List Log :=
  warnings.map (fun w => ⟨.warn, .loader, w.message, [("flow_id", .text f.id)]⟩) ++
    [⟨.info, .loader, "Flow loaded",
      [("flow_id", .text f.id), ("nodes", .integer f.nodes.length),
        ("triggers", .integer f.triggers.length), ("hash", .text hash)]⟩]

def loadFlow (l : Loader ω) (f : Flow) (g : Grants) (j : Journal ω) :
    Except LoadFault LoadedFlow × Journal ω :=
  let report := f.validate l.registry g
  if report.isOk then
    let hash := f.hash
    let j := j.tellAll (acceptedLogs f report.warnings hash)
    (.ok ⟨f, g, report.warnings, hash⟩,
      j.record l.sink .loader (.flowLoaded f.id hash g report.warnings.length))
  else
    (.error (.invalid f.id report.errors),
      j.tell ⟨.warn, .loader, "Flow rejected",
        [("flow_id", .text f.id), ("errors", .integer report.errors.length)]⟩)

def load (l : Loader ω) (bytes : List UInt8) (g : Grants) (j : Journal ω) :
    Except LoadFault LoadedFlow × Journal ω :=
  match Json.read Flow.reader bytes with
  | .error f => (.error (.malformed f), j)
  | .ok f => l.loadFlow f g j

def loadContent (l : Loader ω) (path : String) (content : Except FileFault (List UInt8)) (g : Grants)
    (j : Journal ω) : Except LoadFault LoadedFlow × Journal ω :=
  match content with
  | .error f => (.error (.unreadable path f), j)
  | .ok bytes => l.load bytes g j

end Loader
end PluginFlow
