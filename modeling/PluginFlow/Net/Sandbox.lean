import PluginFlow.Capability
import PluginFlow.Config.Settings
import PluginFlow.Net.Url

/-!
The sandbox through which flows reach the network. It looks up the addresses of a host before it
connects, refuses the host when one of them is not to be contacted, and takes no more of a response
than it was asked for.
-/

namespace PluginFlow.Net

inductive Trouble
  | timedOut
  | failed (reason : String)
  deriving DecidableEq

structure Arrival where
  status : Nat
  contentType : Option (List UInt8)
  pieces : List (Except Trouble (List UInt8))

structure Transport (σ : Type) where
  /-- The addresses of a host. -/
  lookup : (host : String) → (port : Nat) → σ → Except Trouble (List Address) × σ
  /-- Requests a URL from one of some addresses. Redirections are not followed. -/
  request : Url → List Address → σ → Except Trouble Arrival × σ
  /-- Connects to one of some addresses and measures how long that takes. -/
  connect : List Address → (port : Nat) → σ → Except Trouble UInt64 × σ
  /-- The time in milliseconds. -/
  clock : σ → Nat × σ

/-- The address of a text: a strict one, or an IPv4 address with fewer or other parts. -/
def literalAddress? (host : String) : Option Address :=
  (Address.ofText? host).or ((Host.ipv4? host.toList).map .v4)

def closedTransport : Transport Unit where
  lookup host _ w :=
    (match literalAddress? host with
      | some a => .ok [a]
      | none => .error (.failed ("resolve " ++ host ++ ": no lookup")), w)
  request _ _ w := (.error (.failed "not connected"), w)
  connect _ _ w := (.error (.failed "not connected"), w)
  clock w := (0, w)

def Trouble.fault (timeoutMs : Nat) : Trouble → CapabilityFault
  | timedOut => .timeout timeoutMs
  | failed reason => .network reason

/-- The first bytes of some pieces, as many as there is room for. Trouble counts only while there
is room. -/
def collect (room : Nat) : List (Except Trouble (List UInt8)) → Except Trouble (List UInt8)
  | [] => .ok []
  | .error t :: _ => .error t
  | .ok piece :: rest =>
    if room ≤ piece.length then .ok (piece.take room)
    else
      match collect (room - piece.length) rest with
      | .ok later => .ok (piece ++ later)
      | .error t => .error t

def isHeaderByte (b : UInt8) : Bool := (32 ≤ b && b < 127) || b == 9

/-- The text of a content type; one with other bytes reads as empty. -/
def contentTypeText (header : Option (List UInt8)) : String :=
  match header with
  | some bytes =>
    if bytes.all isHeaderByte then String.ofList (bytes.map fun b => Char.ofNat b.toNat) else ""
  | none => ""

def Arrival.response (a : Arrival) (maxBytes : Nat) : Except Trouble HttpResponse :=
  match collect maxBytes a.pieces with
  | .error t => .error t
  | .ok body => .ok ⟨Text.Utf8.repair body, a.status, contentTypeText a.contentType⟩

def withoutBrackets (host : String) : String :=
  let cs := host.toList.dropWhile (· == '[')
  String.ofList ((cs.reverse.dropWhile (· == ']')).reverse)

structure Sandbox (σ : Type) where
  settings : NetworkSettings := {}
  transport : Transport σ

namespace Sandbox

variable {σ : Type}

def refused? (s : Sandbox σ) (addresses : List Address) : Option Address :=
  if s.settings.resolveBeforeConnect then addresses.find? Address.isBlocked else none

def resolve (s : Sandbox σ) (host : String) (port timeoutMs : Nat) (w : σ) :
    Except CapabilityFault (List Address) × σ × List Log :=
  let host := withoutBrackets host
  match s.transport.lookup host port w with
  | (.error t, w) => (.error (t.fault timeoutMs), w, [])
  | (.ok [], w) => (.error (.network ("no addresses for " ++ host)), w, [])
  | (.ok addresses, w) =>
    match s.refused? addresses with
    | none => (.ok addresses, w, [])
    | some a =>
      (.error (.blocked (host ++ " resolves to " ++ a.text)), w,
        [⟨.warn, .sandbox, "Resolved address blocked",
          [("host", .text host), ("addr", .text a.text)]⟩])

def httpGet (s : Sandbox σ) (url : String) (maxBytes timeoutMs : Nat) (w : σ) :
    Except CapabilityFault HttpResponse × σ × List Log :=
  match Url.parse url with
  | .error f => (.error (.failed f.message), w, [])
  | .ok u =>
    match u.hostText? with
    | none => (.error (.failed "missing host"), w, [])
    | some host =>
      match s.resolve host (u.port?.getD 443) timeoutMs w with
      | (.error f, w, remarks) => (.error f, w, remarks)
      | (.ok addresses, w, remarks) =>
        match s.transport.request u addresses w with
        | (.error t, w) => (.error (t.fault timeoutMs), w, remarks)
        | (.ok arrival, w) =>
          match arrival.response maxBytes with
          | .ok r => (.ok r, w, remarks)
          | .error t => (.error (t.fault timeoutMs), w, remarks)

def tcpPing (s : Sandbox σ) (host : String) (port timeoutMs : Nat) (w : σ) :
    Except CapabilityFault UInt64 × σ × List Log :=
  match s.resolve host port timeoutMs w with
  | (.error f, w, remarks) => (.error f, w, remarks)
  | (.ok addresses, w, remarks) =>
    match s.transport.connect addresses port w with
    | (.error t, w) => (.error (t.fault timeoutMs), w, remarks)
    | (.ok latency, w) =>
      (.ok latency, w, remarks ++ [⟨.debug, .sandbox, "TCP ping succeeded",
        [("host", .text host), ("port", .integer port), ("latency_ms", .integer latency.toNat)]⟩])

def captureImage : Except CapabilityFault (List UInt8) := .error (.unavailable "camera")

def reaction {c : Call} (r : c.Answer × σ × List Log) : Reaction c σ :=
  ⟨some r.1, r.2.1, r.2.2⟩

/-- A host that shows nothing, drops stored state and reaches the network through the sandbox. -/
def platform (s : Sandbox σ) : Platform σ where
  respond
    | .httpGet url maxBytes timeoutMs, w => reaction (s.httpGet url maxBytes timeoutMs w)
    | .tcpPing host port timeoutMs, w => reaction (s.tcpPing host port timeoutMs w)
    | .captureImage, w => ⟨some captureImage, w, []⟩
    | c, w => ⟨some (Platform.refusal c), w, Platform.quietRemarks c⟩
  clock := s.transport.clock

end Sandbox
end PluginFlow.Net
