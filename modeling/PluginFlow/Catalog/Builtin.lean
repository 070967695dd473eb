import PluginFlow.Catalog.Spec

/-!
The built-in node types.
-/

namespace PluginFlow

inductive NodeKind
  | ifElse
  | setField
  | filter
  | setState
  | increment
  | showToast
  | showDialog
  | navigate
  | showImage
  | emitMessage
  | persistState
  | curl
  | ping
  | captureImage
  deriving DecidableEq, Repr

namespace NodeKind

def all : List NodeKind :=
  [ifElse, setField, filter, setState, increment, showToast, showDialog, navigate, showImage,
    emitMessage, persistState, curl, ping, captureImage]

def name : NodeKind → String
  | ifElse => "IfElse"
  | setField => "SetField"
  | filter => "Filter"
  | setState => "SetState"
  | increment => "Increment"
  | showToast => "ShowToast"
  | showDialog => "ShowDialog"
  | navigate => "Navigate"
  | showImage => "ShowImage"
  | emitMessage => "EmitMessage"
  | persistState => "PersistState"
  | curl => "Curl"
  | ping => "Ping"
  | captureImage => "CaptureImage"

def ofName? (name : String) : Option NodeKind := all.find? (·.name == name)

theorem ofName?_name (k : NodeKind) : ofName? k.name = some k := by cases k <;> decide

end NodeKind

def conditionOps : List String := ["==", "!=", ">", ">=", "<", "<=", "contains"]

namespace Catalog

def text (key : String) (maxLength : Option Nat) : ParamSpec :=
  { key := key, type := .string, maxLength := maxLength }

def requiredText (key : String) (maxLength : Nat) : ParamSpec :=
  { text key (some maxLength) with required := true }

def textOr (key default : String) (maxLength : Option Nat) : ParamSpec :=
  { text key maxLength with defaultValue := some (.text default) }

def anyOrNull (key : String) : ParamSpec :=
  { key := key, type := .any, defaultValue := some .null }

def requiredAny (key : String) : ParamSpec := { key := key, type := .any, required := true }

def choice (key : String) (allowed : List String) (default : String) : ParamSpec :=
  { key := key, type := .enum, allowedValues := allowed, defaultValue := some (.text default) }

def integer (key : String) (min max default : Nat) : ParamSpec :=
  { key := key, type := .long, min := some (Number.ofNat min), max := some (Number.ofNat max),
    defaultValue := some (.ofInt default) }

def duration : ParamSpec := choice "duration" ["short", "long"] "short"

def condition : List ParamSpec :=
  [requiredAny "left", choice "op" conditionOps "==", requiredAny "right"]

def timeout (default : Nat) : ParamSpec := integer "timeoutMs" 250 30000 default

def displayName : NodeKind → String
  | .ifElse => "If / Else"
  | .setField => "Set Field"
  | .filter => "Filter Items"
  | .setState => "Set State"
  | .increment => "Increment"
  | .showToast => "Show Toast"
  | .showDialog => "Show Dialog"
  | .navigate => "Navigate"
  | .showImage => "Show Image"
  | .emitMessage => "Emit Message"
  | .persistState => "Persist State"
  | .curl => "HTTP GET"
  | .ping => "TCP Ping"
  | .captureImage => "Capture Image"

def params : NodeKind → List ParamSpec
  | .ifElse => condition
  | .setField => [requiredText "field" 128, anyOrNull "value"]
  | .filter => condition
  | .setState => [requiredText "key" 128, anyOrNull "value"]
  | .increment =>
    [requiredText "key" 128, { key := "delta", type := .double, defaultValue := some (.ofInt 1) }]
  | .showToast => [requiredText "message" 1000, duration]
  | .showDialog => [textOr "title" "" (some 200), requiredText "message" 4000, duration]
  | .navigate => [requiredText "screenId" 128]
  | .showImage => [requiredAny "source", textOr "screenId" "image_viewer" (some 128)]
  | .emitMessage => [requiredText "messageType" 128, { key := "payload", type := .any }]
  | .persistState => []
  | .curl =>
    [requiredText "url" 2048, timeout 5000, integer "maxBytes" 1 1048576 65536,
      textOr "bodyKey" "lastCurlBody" none, textOr "statusKey" "lastCurlStatus" none,
      textOr "contentTypeKey" "lastCurlContentType" none]
  | .ping =>
    [requiredText "host" 253, integer "port" 1 65535 443, timeout 2000,
      textOr "okKey" "lastPingOk" none, textOr "latencyKey" "lastPingLatencyMs" none]
  | .captureImage =>
    [textOr "imageKey" "lastImageBase64" none, textOr "statusKey" "lastImageStatus" none]

def effects : NodeKind → List SideEffect
  | .ifElse | .setField | .filter => []
  | .setState | .increment | .persistState => [.storage]
  | .showToast | .showDialog | .navigate | .showImage => [.ui]
  | .emitMessage => [.messaging]
  | .curl | .ping => [.network]
  | .captureImage => [.camera]

def spec (k : NodeKind) : NodeSpec :=
  { type := k.name, displayName := displayName k, params := params k,
    sideEffects := EffectSet.ofList (effects k) }

end Catalog

def Registry.builtin : Registry := Registry.ofList (NodeKind.all.map Catalog.spec)

end PluginFlow
