import PluginFlow.Digest.Blake3
import PluginFlow.Flow.Definition
import PluginFlow.Value.Form

/-!
The JSON form of flows, and the digest of a flow, which is taken of this form.
-/

namespace PluginFlow

open Json (Document Reader)

namespace TriggerType

def toDocument (t : TriggerType) : Document := .text t.name

def reader : Reader TriggerType := fun depth d => ofName <$> Reader.text depth d

end TriggerType

namespace Trigger

def toDocument (t : Trigger) : Document :=
  .object <|
    [("type", t.type.toDocument)] ++ Document.optional "targetId" t.targetId .text ++
      Document.optional "messageType" t.messageType .text ++
      [("startNodeId", .text t.startNodeId)]

structure Draft where
  type : Option TriggerType := none
  targetId : Option (Option String) := none
  messageType : Option (Option String) := none
  startNodeId : Option String := none

def slots : List (Reader.Slot Draft) :=
  [Reader.slot "type" true TriggerType.reader (·.type) fun p v => { p with type := some v },
    Reader.slot "targetId" false (Reader.optional Reader.text) (·.targetId)
      fun p v => { p with targetId := some v },
    Reader.slot "messageType" false (Reader.optional Reader.text) (·.messageType)
      fun p v => { p with messageType := some v },
    Reader.slot "startNodeId" true Reader.text (·.startNodeId)
      fun p v => { p with startNodeId := some v }]

def Draft.finish (p : Draft) : Trigger :=
  { type := p.type.getD (.ofName ""), targetId := p.targetId.getD none,
    messageType := p.messageType.getD none, startNodeId := p.startNodeId.getD "" }

def reader : Reader Trigger := Reader.record "Trigger" slots {} Draft.finish

end Trigger

namespace Node

def toDocument (n : Node) : Document :=
  .object <|
    [("id", .text n.id), ("type", .text n.type), ("params", itemDocument n.params)] ++
      Document.optional "next" n.next .text ++ Document.optional "nextTrue" n.nextTrue .text ++
      Document.optional "nextFalse" n.nextFalse .text

structure Draft where
  id : Option String := none
  type : Option String := none
  params : Option Item := none
  next : Option (Option String) := none
  nextTrue : Option (Option String) := none
  nextFalse : Option (Option String) := none

def slots : List (Reader.Slot Draft) :=
  [Reader.slot "id" true Reader.text (·.id) fun p v => { p with id := some v },
    Reader.slot "type" true Reader.text (·.type) fun p v => { p with type := some v },
    Reader.slot "params" false itemReader (·.params) fun p v => { p with params := some v },
    Reader.slot "next" false (Reader.optional Reader.text) (·.next)
      fun p v => { p with next := some v },
    Reader.slot "nextTrue" false (Reader.optional Reader.text) (·.nextTrue)
      fun p v => { p with nextTrue := some v },
    Reader.slot "nextFalse" false (Reader.optional Reader.text) (·.nextFalse)
      fun p v => { p with nextFalse := some v }]

def Draft.finish (p : Draft) : Node :=
  { id := p.id.getD "", type := p.type.getD "", params := p.params.getD .empty,
    next := p.next.getD none, nextTrue := p.nextTrue.getD none,
    nextFalse := p.nextFalse.getD none }

def reader : Reader Node := Reader.record "Node" slots {} Draft.finish

end Node

namespace Flow

def toDocument (f : Flow) : Document :=
  .object [("flowId", .text f.id), ("triggers", .array (f.triggers.map Trigger.toDocument)),
    ("nodes", .array (f.nodes.map Node.toDocument))]

structure Draft where
  id : Option String := none
  triggers : Option (List Trigger) := none
  nodes : Option (List Node) := none

def slots : List (Reader.Slot Draft) :=
  [Reader.slot "flowId" true Reader.text (·.id) fun p v => { p with id := some v },
    Reader.slot "triggers" false (Reader.list Trigger.reader) (·.triggers)
      fun p v => { p with triggers := some v },
    Reader.slot "nodes" false (Reader.list Node.reader) (·.nodes)
      fun p v => { p with nodes := some v }]

def Draft.finish (p : Draft) : Flow :=
  { id := p.id.getD "", triggers := p.triggers.getD [], nodes := p.nodes.getD [] }

def reader : Reader Flow := Reader.record "FlowDefinition" slots {} Draft.finish

def hash (f : Flow) : String :=
  Digest.Blake3.hexDigest (Text.Utf8.encode f.toDocument.compact)

end Flow
end PluginFlow
