import PluginFlow.Net.Address
import PluginFlow.Text.Utf8

/-!
Hosts as they stand in URLs: names, and addresses in any of their spellings. A name whose last
label is a number is an IPv4 address with one to four parts in decimal, octal or hexadecimal
digits, the last part filling what the others leave.
-/

namespace PluginFlow.Net

inductive UrlFault
  | emptyHost
  | invalidName
  | invalidPort
  | invalidIpv4
  | invalidIpv6
  | invalidCharacter
  | notAbsolute
  deriving DecidableEq, Repr

namespace UrlFault

def message : UrlFault → String
  | emptyHost => "empty host"
  | invalidName => "invalid international domain name"
  | invalidPort => "invalid port number"
  | invalidIpv4 => "invalid IPv4 address"
  | invalidIpv6 => "invalid IPv6 address"
  | invalidCharacter => "invalid domain character"
  | notAbsolute => "relative URL without a base"

end UrlFault

inductive Host
  | domain (name : String)
  | ipv4 (a : Ipv4)
  | ipv6 (a : Ipv6)
  deriving DecidableEq

namespace Host

def text : Host → String
  | domain name => name
  | ipv4 a => a.text
  | ipv6 a => "[" ++ a.text ++ "]"

def percentByte? (mark high low : UInt8) : Option UInt8 := do
  let x ← Text.hexValue? (Char.ofNat high.toNat)
  let y ← Text.hexValue? (Char.ofNat low.toNat)
  if mark == 37 then some (16 * x + y).toUInt8 else none

def percentDecode : List UInt8 → List UInt8
  | b :: h :: l :: rest =>
    match percentByte? b h l with
    | some x => x :: percentDecode rest
    | none => b :: percentDecode (h :: l :: rest)
  | bs => bs

def isForbidden (c : Char) : Bool :=
  c.toNat ≤ 0x20 || c.toNat == 0x7F || "%#/:<>?@[\\]^|".toList.contains c

def isForbiddenElsewhere (c : Char) : Bool :=
  c.toNat == 0 || "\t\n\r #/:<>?@[\\]^|".toList.contains c

def digits? (base : Nat) (cs : List Char) : Option Nat := do
  let values ← cs.mapM Text.hexValue?
  if values.all (· < base) then some (values.foldl (fun n d => base * n + d) 0) else none

/-- A part of an IPv4 address: `0x` starts hexadecimal digits and `0` octal ones. -/
def part? (cs : List Char) : Option Nat :=
  match cs with
  | [] => none
  | '0' :: 'x' :: rest => digits? 16 rest
  | '0' :: 'X' :: rest => digits? 16 rest
  | '0' :: c :: rest => digits? 8 (c :: rest)
  | _ => digits? 10 cs

/-- The labels of a name without an empty one at its end. -/
def numericLabels (name : List Char) : List (List Char) :=
  let labels := Idna.splitOn '.' name
  if labels.getLast? == some [] then labels.dropLast else labels

def endsInNumber (name : List Char) : Bool :=
  match (numericLabels name).getLast? with
  | none => false
  | some last => (!last.isEmpty && last.all Text.isDigit) || (part? last).isSome

/-- The IPv4 address of some parts: the last one fills what the others leave. -/
def ofParts? (parts : List Nat) : Option Ipv4 :=
  let heads := parts.dropLast
  match parts.getLast? with
  | none => none
  | some last =>
    if 4 < parts.length || heads.any (255 < ·) || Nat.pow 256 (4 - heads.length) ≤ last then none
    else
      let high := (heads ++ List.replicate (4 - heads.length) 0).foldl (fun n p => 256 * n + p) 0
      some (.ofNat (high + last))

def ipv4? (name : List Char) : Option Ipv4 := do
  ofParts? (← (numericLabels name).mapM part?)

def bracketed? (cs : List Char) : Option (Option (List Char)) :=
  match cs with
  | '[' :: rest => some (if rest.getLast? == some ']' then some rest.dropLast else none)
  | _ => none

def ofBrackets (inner : Option (List Char)) : Except UrlFault Host :=
  match inner.bind Ipv6.ofChars? with
  | some a => .ok (.ipv6 a)
  | none => .error .invalidIpv6

def ofName (name : List Char) : Except UrlFault Host :=
  if name.any isForbidden then .error .invalidName
  else if name.isEmpty then .error .emptyHost
  else if endsInNumber name then
    match ipv4? name with
    | some a => .ok (.ipv4 a)
    | none => .error .invalidIpv4
  else .ok (.domain (String.ofList name))

def parse (s : String) : Except UrlFault Host :=
  match bracketed? s.toList with
  | some inner => ofBrackets inner
  | none =>
    match Text.Utf8.decode? (percentDecode (Text.Utf8.encode s)) with
    | none => .error .invalidName
    | some name =>
      match Idna.toAscii? name.toList with
      | none => .error .invalidName
      | some name => ofName name

end Host
end PluginFlow.Net
