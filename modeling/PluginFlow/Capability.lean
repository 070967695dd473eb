import PluginFlow.Log
import PluginFlow.Value

/-!
What the host does on behalf of a plugin: its user interface, network, camera and storage. Nodes
only ask; a platform answers. A platform that breaks off gives no answer at all.
-/

namespace PluginFlow

inductive CapabilityFault
  | blocked (destination : String)
  | network (reason : String)
  | timeout (ms : Nat)
  | unavailable (name : String)
  | failed (reason : String)
  deriving DecidableEq

def CapabilityFault.message : CapabilityFault → String
  | blocked destination => "destination blocked: " ++ destination
  | network reason => "network error: " ++ reason
  | timeout ms => "timed out after " ++ Number.intText ms ++ "ms"
  | unavailable name => "capability unavailable: " ++ name
  | failed reason => reason

inductive DurationHint
  | short
  | long
  deriving DecidableEq, Repr

namespace DurationHint

/-- Everything but `long` in any ASCII case is short. -/
def ofText (s : String) : DurationHint := if Text.lower (Text.trim s) = "long" then long else short

def name : DurationHint → String
  | short => "Short"
  | long => "Long"

end DurationHint

structure HttpResponse where
  body : String
  status : Nat
  contentType : String
  deriving DecidableEq

inductive Call
  | toast (message : String) (duration : DurationHint)
  | dialog (title message : String) (duration : DurationHint)
  | navigate (screen : String) (extras : KeyMap Value)
  | httpGet (url : String) (maxBytes timeoutMs : Nat)
  | tcpPing (host : String) (port timeoutMs : Nat)
  | captureImage
  | persist (state : KeyMap Value)
  deriving DecidableEq

/-- What a platform answers: a response or a fault from network and camera, nothing from the user
interface and storage. -/
def Call.Answer : Call → Type
  | httpGet .. => Except CapabilityFault HttpResponse
  | tcpPing .. => Except CapabilityFault UInt64
  | captureImage => Except CapabilityFault (List UInt8)
  | _ => Unit

structure Reaction (c : Call) (σ : Type) where
  /-- The answer; none when the platform breaks off. -/
  answer : Option c.Answer
  world : σ
  /-- What the platform tells about the call. -/
  remarks : List Log := []

structure Platform (σ : Type) where
  respond : (c : Call) → σ → Reaction c σ
  /-- The time in milliseconds. -/
  clock : σ → Nat × σ

namespace Platform

def quietRemarks : Call → List Log
  | .toast message duration =>
    [⟨.info, .capability, "toast", [("message", .text message), ("duration", .text duration.name)]⟩]
  | .dialog title message duration =>
    [⟨.info, .capability, "dialog", [("title", .text title), ("message", .text message),
      ("duration", .text duration.name)]⟩]
  | .navigate screen extras =>
    [⟨.info, .capability, "navigate", [("screen_id", .text screen),
      ("extras", .integer extras.size)]⟩]
  | _ => []

def refusal : (c : Call) → c.Answer
  | .httpGet .. => .error (.unavailable "network")
  | .tcpPing .. => .error (.unavailable "network")
  | .captureImage => .error (.unavailable "camera")
  | .toast .. => ()
  | .dialog .. => ()
  | .navigate .. => ()
  | .persist .. => ()

/-- A host that shows nothing, refuses network and camera, drops stored state, and whose clock
stands. -/
def refusing : Platform Unit where
  respond c s := ⟨some (refusal c), s, quietRemarks c⟩
  clock s := (0, s)

end Platform
end PluginFlow
