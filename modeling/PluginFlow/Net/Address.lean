import PluginFlow.Net.Idna
import PluginFlow.Number.Layout
import PluginFlow.Text.Quoted

/-!
Internet addresses, their texts, and which of them are not to be contacted: those of this host, of
private networks and of the local link.
-/

namespace PluginFlow.Net

structure Ipv4 where
  a : UInt8
  b : UInt8
  c : UInt8
  d : UInt8
  deriving DecidableEq, Repr

structure Ipv6 where
  pieces : List UInt16
  size_eq : pieces.length = 8
  deriving DecidableEq

namespace Ipv4

def octets (x : Ipv4) : List UInt8 := [x.a, x.b, x.c, x.d]

def text (x : Ipv4) : String :=
  ".".intercalate (x.octets.map fun o => Number.intText o.toNat)

def ofNat (n : Nat) : Ipv4 :=
  ⟨(n / 16777216).toUInt8, (n / 65536 % 256).toUInt8, (n / 256 % 256).toUInt8,
    (n % 256).toUInt8⟩

/-- A decimal number below 256 without leading zeros. -/
def octet? (cs : List Char) : Option UInt8 :=
  if cs.isEmpty || !cs.all Text.isDigit || 3 < cs.length || (cs.head? == some '0' && cs ≠ ['0']) then
    none
  else
    let n := cs.foldl (fun n c => 10 * n + Text.digitValue c) 0
    if n < 256 then some n.toUInt8 else none

def ofChars? (cs : List Char) : Option Ipv4 :=
  match Idna.splitOn '.' cs with
  | [a, b, c, d] => do return ⟨← octet? a, ← octet? b, ← octet? c, ← octet? d⟩
  | _ => none

def isPrivate (x : Ipv4) : Bool :=
  x.a == 10 || x.a == 127 || x.a == 0 || (x.a == 172 && 16 ≤ x.b && x.b ≤ 31) ||
    (x.a == 192 && x.b == 168) || (x.a == 169 && x.b == 254)

end Ipv4

namespace Ipv6

def mapped? (x : Ipv6) : Option Ipv4 :=
  match x.pieces with
  | [0, 0, 0, 0, 0, 0xFFFF, hi, lo] => some (.ofNat (hi.toNat * 65536 + lo.toNat))
  | _ => none

def leadingZeros : List UInt16 → Nat
  | [] => 0
  | p :: rest => if p == 0 then leadingZeros rest + 1 else 0

/-- Where the first longest run of zeros starts, and its length. -/
def longestZeros : Nat → List UInt16 → Nat × Nat
  | start, [] => (start, 0)
  | start, p :: rest =>
    let here := leadingZeros (p :: rest)
    let later := longestZeros (start + 1) rest
    if later.2 ≤ here then (start, here) else later

def pieceText (p : UInt16) : String := String.ofList (Text.hexText p.toNat)

def piecesText (ps : List UInt16) : String := ":".intercalate (ps.map pieceText)

/-- Hexadecimal text; the first longest run of at least two zeros is left out. -/
def text (x : Ipv6) : String :=
  let (start, length) := longestZeros 0 x.pieces
  if 2 ≤ length then
    piecesText (x.pieces.take start) ++ "::" ++ piecesText (x.pieces.drop (start + length))
  else piecesText x.pieces

def mixedText (x : Ipv6) : String :=
  match x.mapped? with
  | some v4 => "::ffff:" ++ v4.text
  | none => x.text

def piece? (cs : List Char) : Option UInt16 :=
  if cs.isEmpty || 4 < cs.length then none
  else do
    let values ← cs.mapM Text.hexValue?
    return (values.foldl (fun n d => 16 * n + d) 0).toUInt16

/-- The pieces of parts between colons; the last part may be an IPv4 address if that is allowed. -/
def pieces? (ipv4Last : Bool) : List (List Char) → Option (List UInt16)
  | [] => some []
  | [last] =>
    match piece? last with
    | some p => some [p]
    | none =>
      if ipv4Last then
        (Ipv4.ofChars? last).map fun v4 =>
          [v4.a.toUInt16 * 256 + v4.b.toUInt16, v4.c.toUInt16 * 256 + v4.d.toUInt16]
      else none
  | part :: rest => do
    let p ← piece? part
    return p :: (← pieces? ipv4Last rest)

def side? (ipv4Last : Bool) (cs : List Char) : Option (List UInt16) :=
  if cs.isEmpty then some [] else pieces? ipv4Last (Idna.splitOn ':' cs)

/-- What stands before and after the first two colons in a row. -/
def splitRun? (before : List Char) : List Char → Option (List Char × List Char)
  | [] => none
  | ':' :: ':' :: rest => some (before.reverse, rest)
  | c :: rest => splitRun? (c :: before) rest

def ofPieces? (ps : List UInt16) : Option Ipv6 :=
  if h : ps.length = 8 then some ⟨ps, h⟩ else none

/-- The address of a text. A left-out run stands for at least one piece. -/
def ofChars? (cs : List Char) : Option Ipv6 :=
  match splitRun? [] cs with
  | none => (pieces? true (Idna.splitOn ':' cs)).bind ofPieces?
  | some (before, after) => do
    let head ← side? false before
    let tail ← side? true after
    if head.length + tail.length ≤ 7 then
      ofPieces? (head ++ List.replicate (8 - head.length - tail.length) 0 ++ tail)
    else none

def isLoopback (x : Ipv6) : Bool := x.pieces == [0, 0, 0, 0, 0, 0, 0, 1]

def isUnspecified (x : Ipv6) : Bool := x.pieces == [0, 0, 0, 0, 0, 0, 0, 0]

def first (x : Ipv6) : UInt16 := x.pieces.headD 0

/-- Addresses of private networks: fc00::/7. -/
def isUniqueLocal (x : Ipv6) : Bool := x.first &&& 0xFE00 == 0xFC00

/-- Addresses of the local link: fe80::/10. -/
def isLinkLocal (x : Ipv6) : Bool := x.first &&& 0xFFC0 == 0xFE80

end Ipv6

inductive Address
  | v4 (a : Ipv4)
  | v6 (a : Ipv6)
  deriving DecidableEq

namespace Address

def text : Address → String
  | v4 a => a.text
  | v6 a => a.mixedText

def ofText? (s : String) : Option Address :=
  ((Ipv4.ofChars? s.toList).map v4).or ((Ipv6.ofChars? s.toList).map v6)

def isBlocked : Address → Bool
  | v4 a => a.isPrivate
  | v6 a =>
    a.isLoopback || a.isUnspecified || a.isUniqueLocal || a.isLinkLocal ||
      (a.mapped?.map Ipv4.isPrivate).getD false

end Address
end PluginFlow.Net
