import PluginFlow.Config.Settings
import PluginFlow.Files.Basic
import PluginFlow.Json.Document
import PluginFlow.Json.Reader

/-!
The JSON form of settings. Fields that are left out have their defaults, so that an empty object
is a complete document.
-/

namespace PluginFlow

open Json (Document Reader)

namespace WindowLimit

def toDocument (w : WindowLimit) : Document :=
  .object [("limit", .integer w.limit), ("windowSecs", .integer w.windowSecs)]

structure Draft where
  limit : Option Nat := none
  windowSecs : Option Nat := none

def slots : List (Reader.Slot Draft) :=
  [Reader.slot "limit" true Reader.word (·.limit) fun p v => { p with limit := some v },
    Reader.slot "windowSecs" true Reader.longWord (·.windowSecs)
      fun p v => { p with windowSecs := some v }]

def Draft.finish (p : Draft) : WindowLimit := ⟨p.limit.getD 0, p.windowSecs.getD 0⟩

def reader : Reader WindowLimit := Reader.record "WindowLimit" slots {} Draft.finish

end WindowLimit

namespace AdmissionSettings

def toDocument (s : AdmissionSettings) : Document :=
  .object [("timer", s.timer.toDocument), ("message", s.message.toDocument),
    ("ui", s.ui.toDocument)]

structure Draft where
  timer : Option WindowLimit := none
  message : Option WindowLimit := none
  ui : Option WindowLimit := none

def slots : List (Reader.Slot Draft) :=
  [Reader.slot "timer" false WindowLimit.reader (·.timer) fun p v => { p with timer := some v },
    Reader.slot "message" false WindowLimit.reader (·.message)
      fun p v => { p with message := some v },
    Reader.slot "ui" false WindowLimit.reader (·.ui) fun p v => { p with ui := some v }]

def Draft.finish (p : Draft) : AdmissionSettings :=
  let d : AdmissionSettings := {}
  ⟨p.timer.getD d.timer, p.message.getD d.message, p.ui.getD d.ui⟩

def reader : Reader AdmissionSettings := Reader.record "RateLimitConfig" slots {} Draft.finish

end AdmissionSettings

namespace RedactionSettings

def toDocument (s : RedactionSettings) : Document :=
  .object [("maxValueLen", .integer s.maxValueLen)]

structure Draft where
  maxValueLen : Option Nat := none

def slots : List (Reader.Slot Draft) :=
  [Reader.slot "maxValueLen" false Reader.count (·.maxValueLen)
    fun p v => { p with maxValueLen := some v }]

def Draft.finish (p : Draft) : RedactionSettings :=
  ⟨p.maxValueLen.getD ({} : RedactionSettings).maxValueLen⟩

def reader : Reader RedactionSettings := Reader.record "RedactionConfig" slots {} Draft.finish

end RedactionSettings

namespace NetworkSettings

def toDocument (s : NetworkSettings) : Document :=
  .object [("defaultTimeoutMs", .integer s.defaultTimeoutMs),
    ("minTimeoutMs", .integer s.minTimeoutMs), ("maxTimeoutMs", .integer s.maxTimeoutMs),
    ("defaultMaxBytes", .integer s.defaultMaxBytes),
    ("maxBytesCeiling", .integer s.maxBytesCeiling),
    ("resolveBeforeConnect", .bool s.resolveBeforeConnect)]

structure Draft where
  defaultTimeoutMs : Option Nat := none
  minTimeoutMs : Option Nat := none
  maxTimeoutMs : Option Nat := none
  defaultMaxBytes : Option Nat := none
  maxBytesCeiling : Option Nat := none
  resolveBeforeConnect : Option Bool := none

def slots : List (Reader.Slot Draft) :=
  [Reader.slot "defaultTimeoutMs" false Reader.longWord (·.defaultTimeoutMs)
      fun p v => { p with defaultTimeoutMs := some v },
    Reader.slot "minTimeoutMs" false Reader.longWord (·.minTimeoutMs)
      fun p v => { p with minTimeoutMs := some v },
    Reader.slot "maxTimeoutMs" false Reader.longWord (·.maxTimeoutMs)
      fun p v => { p with maxTimeoutMs := some v },
    Reader.slot "defaultMaxBytes" false Reader.longWord (·.defaultMaxBytes)
      fun p v => { p with defaultMaxBytes := some v },
    Reader.slot "maxBytesCeiling" false Reader.longWord (·.maxBytesCeiling)
      fun p v => { p with maxBytesCeiling := some v },
    Reader.slot "resolveBeforeConnect" false Reader.bool (·.resolveBeforeConnect)
      fun p v => { p with resolveBeforeConnect := some v }]

def Draft.finish (p : Draft) : NetworkSettings :=
  let d : NetworkSettings := {}
  { defaultTimeoutMs := p.defaultTimeoutMs.getD d.defaultTimeoutMs
    minTimeoutMs := p.minTimeoutMs.getD d.minTimeoutMs
    maxTimeoutMs := p.maxTimeoutMs.getD d.maxTimeoutMs
    defaultMaxBytes := p.defaultMaxBytes.getD d.defaultMaxBytes
    maxBytesCeiling := p.maxBytesCeiling.getD d.maxBytesCeiling
    resolveBeforeConnect := p.resolveBeforeConnect.getD d.resolveBeforeConnect }

def reader : Reader NetworkSettings := Reader.record "NetworkConfig" slots {} Draft.finish

end NetworkSettings

namespace Settings

def toDocument (s : Settings) : Document :=
  .object [("maxStepsPerRun", .integer s.maxStepsPerRun),
    ("historyCapacity", .integer s.historyCapacity), ("traceNodes", .bool s.traceNodes),
    ("redaction", s.redaction.toDocument), ("rateLimits", s.rateLimits.toDocument),
    ("network", s.network.toDocument)]

structure Draft where
  maxStepsPerRun : Option Nat := none
  historyCapacity : Option Nat := none
  traceNodes : Option Bool := none
  redaction : Option RedactionSettings := none
  rateLimits : Option AdmissionSettings := none
  network : Option NetworkSettings := none

def slots : List (Reader.Slot Draft) :=
  [Reader.slot "maxStepsPerRun" false Reader.word (·.maxStepsPerRun)
      fun p v => { p with maxStepsPerRun := some v },
    Reader.slot "historyCapacity" false Reader.count (·.historyCapacity)
      fun p v => { p with historyCapacity := some v },
    Reader.slot "traceNodes" false Reader.bool (·.traceNodes)
      fun p v => { p with traceNodes := some v },
    Reader.slot "redaction" false RedactionSettings.reader (·.redaction)
      fun p v => { p with redaction := some v },
    Reader.slot "rateLimits" false AdmissionSettings.reader (·.rateLimits)
      fun p v => { p with rateLimits := some v },
    Reader.slot "network" false NetworkSettings.reader (·.network)
      fun p v => { p with network := some v }]

def Draft.finish (p : Draft) : Settings :=
  let d : Settings := {}
  { maxStepsPerRun := p.maxStepsPerRun.getD d.maxStepsPerRun
    historyCapacity := p.historyCapacity.getD d.historyCapacity
    traceNodes := p.traceNodes.getD d.traceNodes
    redaction := p.redaction.getD d.redaction
    rateLimits := p.rateLimits.getD d.rateLimits
    network := p.network.getD d.network }

def reader : Reader Settings := Reader.record "EngineConfig" slots {} Draft.finish

inductive LoadFault
  | unreadable (path : String) (fault : FileFault)
  | parse (fault : Json.Fault)
  | invalid (fault : SettingsFault)
  deriving DecidableEq

def ofText? (bytes : Json.Bytes) : Except LoadFault Settings :=
  match Json.read reader bytes with
  | .error f => .error (.parse f)
  | .ok s =>
    match s.fault? with
    | some f => .error (.invalid f)
    | none => .ok s

def ofContent? (path : String) (content : Except FileFault (List UInt8)) :
    Except LoadFault Settings :=
  match content with
  | .error f => .error (.unreadable path f)
  | .ok bytes =>
    if (Text.Utf8.decode? bytes).isSome then ofText? bytes
    else .error (.unreadable path .notText)

def LoadFault.message : LoadFault → String
  | .unreadable path f => "Failed to read config file " ++ path ++ ": " ++ f.message
  | .parse f => "Failed to parse config: " ++ f.message
  | .invalid f => "Invalid config: " ++ f.message

def LoadFault.cause? : LoadFault → Option String
  | .unreadable _ f => some f.message
  | .parse f => some f.message
  | .invalid _ => none

end Settings
end PluginFlow
