/-!
UTF-8. Writing is character by character; reading runs a small automaton over the bytes and
marks each maximal part that no character starts with. Strict reading refuses marked texts,
repairing puts U+FFFD for each mark.
-/

namespace PluginFlow.Text.Utf8

def encodeChar (c : Char) : List UInt8 :=
  let n := c.toNat
  if n < 0x80 then [n.toUInt8]
  else if n < 0x800 then [(0xC0 + n / 64).toUInt8, (0x80 + n % 64).toUInt8]
  else if n < 0x10000 then
    [(0xE0 + n / 4096).toUInt8, (0x80 + n / 64 % 64).toUInt8, (0x80 + n % 64).toUInt8]
  else
    [(0xF0 + n / 262144).toUInt8, (0x80 + n / 4096 % 64).toUInt8,
      (0x80 + n / 64 % 64).toUInt8, (0x80 + n % 64).toUInt8]

def encode (s : String) : List UInt8 :=
  s.toList.flatMap encodeChar

/-- A character of which some bytes are still owed, the next one between `low` and `high`. -/
structure Pending where
  owed : Nat
  low : Nat
  high : Nat
  value : Nat
  deriving DecidableEq, Repr

/-- What one byte yields: finished characters (`none` marks an invalid part) and the character
begun. -/
structure Step where
  found : List (Option Char)
  pending : Option Pending

def first (b : UInt8) : Step :=
  let n := b.toNat
  if n < 0x80 then ⟨[some (Char.ofNat n)], none⟩
  else if 0xC2 ≤ n ∧ n ≤ 0xDF then ⟨[], some ⟨1, 0x80, 0xBF, n % 32⟩⟩
  else if n = 0xE0 then ⟨[], some ⟨2, 0xA0, 0xBF, 0⟩⟩
  else if n = 0xED then ⟨[], some ⟨2, 0x80, 0x9F, n % 16⟩⟩
  else if 0xE1 ≤ n ∧ n ≤ 0xEF then ⟨[], some ⟨2, 0x80, 0xBF, n % 16⟩⟩
  else if n = 0xF0 then ⟨[], some ⟨3, 0x90, 0xBF, 0⟩⟩
  else if 0xF1 ≤ n ∧ n ≤ 0xF3 then ⟨[], some ⟨3, 0x80, 0xBF, n % 8⟩⟩
  else if n = 0xF4 then ⟨[], some ⟨3, 0x80, 0x8F, n % 8⟩⟩
  else ⟨[none], none⟩

/-- Reads one byte. A byte that does not continue the begun character ends an invalid part
and is read afresh. -/
def step : Option Pending → UInt8 → Step
  | none, b => first b
  | some p, b =>
    if p.low ≤ b.toNat ∧ b.toNat ≤ p.high then
      let value := p.value * 64 + b.toNat % 64
      if p.owed ≤ 1 then ⟨[some (Char.ofNat value)], none⟩
      else ⟨[], some ⟨p.owed - 1, 0x80, 0xBF, value⟩⟩
    else ⟨none :: (first b).found, (first b).pending⟩

/-- Reads bytes after a begun character; one left unfinished at the end is invalid. -/
def decodeFrom : Option Pending → List UInt8 → List (Option Char)
  | none, [] => []
  | some _, [] => [none]
  | p, b :: rest => (step p b).found ++ decodeFrom (step p b).pending rest

/-- The characters of the bytes, with `none` for each maximal invalid part. -/
def pieces (bytes : List UInt8) : List (Option Char) :=
  decodeFrom none bytes

def valid? : List (Option Char) → Option (List Char)
  | [] => some []
  | none :: _ => none
  | some c :: rest => (valid? rest).map (c :: ·)

def decode? (bytes : List UInt8) : Option String :=
  (valid? (pieces bytes)).map String.ofList

/-- The text of any bytes, each invalid part read as U+FFFD. -/
def repair (bytes : List UInt8) : String :=
  String.ofList ((pieces bytes).map (·.getD '\uFFFD'))

end PluginFlow.Text.Utf8
