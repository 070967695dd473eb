import PluginFlow.Effect
import PluginFlow.Json.Document
import PluginFlow.Redaction
import PluginFlow.Run.Context

/-!
What the audit trail records, and the JSON form of its events.
-/

namespace PluginFlow.Audit

open Json (Document)

inductive EventType
  | flowLoaded
  | runCompleted
  | runFailed
  | rateLimited
  | nodeTrace
  | policyBlocked
  | capabilityUsed
  deriving DecidableEq, Repr

namespace EventType

def all : List EventType :=
  [flowLoaded, runCompleted, runFailed, rateLimited, nodeTrace, policyBlocked, capabilityUsed]

def name : EventType → String
  | flowLoaded => "flow_loaded"
  | runCompleted => "run_completed"
  | runFailed => "run_failed"
  | rateLimited => "rate_limited"
  | nodeTrace => "node_trace"
  | policyBlocked => "policy_blocked"
  | capabilityUsed => "capability_used"

end EventType

inductive Details
  | load (flowHash grantsHash : String) (warnings : Nat)
  | run (steps durationMs : Nat) (error : Option String)
  | admission (key : String)
  | nodeTrace (nodeId nodeType : String) (stateChanges itemChanges : List FieldChange)
  | policy (nodeId destination reason : String)
  | capability (nodeId capability outcome : String)
  deriving DecidableEq

structure Event where
  type : EventType
  flowId : String
  trigger : Option String := none
  details : Details
  deriving DecidableEq

namespace Event

def flowLoaded (flowId flowHash : String) (grants : Grants) (warnings : Nat) : Event :=
  { type := .flowLoaded, flowId := flowId, details := .load flowHash grants.hash warnings }

def runFinished (r : RunResult) : Event :=
  { type := if r.ok then .runCompleted else .runFailed, flowId := r.flowId,
    trigger := some r.triggerType.name, details := .run r.steps r.durationMs r.error }

def rateLimited (flowId : String) (type : TriggerType) (key : String) : Event :=
  { type := .rateLimited, flowId := flowId, trigger := some type.name, details := .admission key }

def nodeTrace (flowId nodeId nodeType : String) (stateChanges itemChanges : List FieldChange) :
    Event :=
  { type := .nodeTrace, flowId := flowId,
    details := .nodeTrace nodeId nodeType stateChanges itemChanges }

def policyBlocked (flowId nodeId destination reason : String) : Event :=
  { type := .policyBlocked, flowId := flowId, details := .policy nodeId destination reason }

def capabilityUsed (flowId nodeId capability outcome : String) : Event :=
  { type := .capabilityUsed, flowId := flowId, details := .capability nodeId capability outcome }

end Event

def changeDocument (c : FieldChange) : Document :=
  .object <|
    [("key", .text c.key)] ++ Document.optional "before" c.before .text ++
      Document.optional "after" c.after .text

namespace Details

def toDocument : Details → Document
  | load flowHash grantsHash warnings =>
    .object [("type", .text "load"), ("flow_hash", .text flowHash),
      ("grants_hash", .text grantsHash), ("warnings", .integer warnings)]
  | run steps durationMs error =>
    .object <|
      [("type", .text "run"), ("steps", .integer steps), ("duration_ms", .integer durationMs)] ++
        Document.optional "error" error .text
  | admission key => .object [("type", .text "admission"), ("key", .text key)]
  | nodeTrace nodeId nodeType stateChanges itemChanges =>
    .object [("type", .text "node_trace"), ("node_id", .text nodeId),
      ("node_type", .text nodeType), ("state_changes", .array (stateChanges.map changeDocument)),
      ("item_changes", .array (itemChanges.map changeDocument))]
  | policy nodeId destination reason =>
    .object [("type", .text "policy"), ("node_id", .text nodeId),
      ("destination", .text destination), ("reason", .text reason)]
  | capability nodeId name outcome =>
    .object [("type", .text "capability"), ("node_id", .text nodeId),
      ("capability", .text name), ("outcome", .text outcome)]

end Details

def Event.members (e : Event) : List (String × Document) :=
  [("event_type", .text e.type.name), ("flow_id", .text e.flowId)] ++
    Document.optional "trigger" e.trigger .text ++ [("details", e.details.toDocument)]

structure Entry where
  timestamp : String
  event : Event
  deriving DecidableEq

def Entry.toDocument (e : Entry) : Document :=
  .object (("timestamp", .text e.timestamp) :: e.event.members)

end PluginFlow.Audit
