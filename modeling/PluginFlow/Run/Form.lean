import PluginFlow.Flow.Form
import PluginFlow.Run.Context

/-!
The JSON form of contexts, results and records of runs.
-/

namespace PluginFlow

open Json (Document Reader)

namespace Context

def toDocument (c : Context) : Document :=
  .object <|
    Document.optional "actionTargetId" c.targetId .text ++
      [("actionData", itemDocument c.data), ("items", .array (c.items.map itemDocument))]

structure Draft where
  targetId : Option (Option String) := none
  data : Option Item := none
  items : Option (List Item) := none

def slots : List (Reader.Slot Draft) :=
  [Reader.slot "actionTargetId" false (Reader.optional Reader.text) (·.targetId)
      fun p v => { p with targetId := some v },
    Reader.slot "actionData" false itemReader (·.data) fun p v => { p with data := some v },
    Reader.slot "items" false (Reader.list itemReader) (·.items)
      fun p v => { p with items := some v }]

def Draft.finish (p : Draft) : Context :=
  { targetId := p.targetId.getD none, data := p.data.getD .empty, items := p.items.getD [.empty] }

def reader : Reader Context := Reader.record "TriggerContext" slots {} Draft.finish

end Context

namespace RunResult

def toDocument (r : RunResult) : Document :=
  .object <|
    [("ok", .bool r.ok), ("flowId", .text r.flowId), ("triggerType", r.triggerType.toDocument),
      ("steps", .integer r.steps), ("durationMs", .integer r.durationMs)] ++
      Document.optional "error" r.error .text ++ [("items", .array (r.items.map itemDocument))]

structure Draft where
  ok : Option Bool := none
  flowId : Option String := none
  triggerType : Option TriggerType := none
  steps : Option Nat := none
  durationMs : Option Nat := none
  error : Option (Option String) := none
  items : Option (List Item) := none

def slots : List (Reader.Slot Draft) :=
  [Reader.slot "ok" true Reader.bool (·.ok) fun p v => { p with ok := some v },
    Reader.slot "flowId" true Reader.text (·.flowId) fun p v => { p with flowId := some v },
    Reader.slot "triggerType" true TriggerType.reader (·.triggerType)
      fun p v => { p with triggerType := some v },
    Reader.slot "steps" true Reader.word (·.steps) fun p v => { p with steps := some v },
    Reader.slot "durationMs" true Reader.longWord (·.durationMs)
      fun p v => { p with durationMs := some v },
    Reader.slot "error" false (Reader.optional Reader.text) (·.error)
      fun p v => { p with error := some v },
    Reader.slot "items" false (Reader.list itemReader) (·.items)
      fun p v => { p with items := some v }]

def Draft.finish (p : Draft) : RunResult :=
  { ok := p.ok.getD false, flowId := p.flowId.getD "",
    triggerType := p.triggerType.getD (.ofName ""), steps := p.steps.getD 0,
    durationMs := p.durationMs.getD 0, error := p.error.getD none, items := p.items.getD [] }

def reader : Reader RunResult := Reader.record "RunResult" slots {} Draft.finish

end RunResult

namespace RunRecord

def toDocument (r : RunRecord) : Document :=
  .object <|
    [("flowId", .text r.flowId), ("triggerType", r.triggerType.toDocument), ("ok", .bool r.ok),
      ("steps", .integer r.steps), ("durationMs", .integer r.durationMs)] ++
      Document.optional "error" r.error .text

structure Draft where
  flowId : Option String := none
  triggerType : Option TriggerType := none
  ok : Option Bool := none
  steps : Option Nat := none
  durationMs : Option Nat := none
  error : Option (Option String) := none

def slots : List (Reader.Slot Draft) :=
  [Reader.slot "flowId" true Reader.text (·.flowId) fun p v => { p with flowId := some v },
    Reader.slot "triggerType" true TriggerType.reader (·.triggerType)
      fun p v => { p with triggerType := some v },
    Reader.slot "ok" true Reader.bool (·.ok) fun p v => { p with ok := some v },
    Reader.slot "steps" true Reader.word (·.steps) fun p v => { p with steps := some v },
    Reader.slot "durationMs" true Reader.longWord (·.durationMs)
      fun p v => { p with durationMs := some v },
    Reader.slot "error" false (Reader.optional Reader.text) (·.error)
      fun p v => { p with error := some v }]

def Draft.finish (p : Draft) : RunRecord :=
  { flowId := p.flowId.getD "", triggerType := p.triggerType.getD (.ofName ""),
    ok := p.ok.getD false, steps := p.steps.getD 0, durationMs := p.durationMs.getD 0,
    error := p.error.getD none }

def reader : Reader RunRecord := Reader.record "RunRecord" slots {} Draft.finish

end RunRecord
end PluginFlow
