import PluginFlow.Number.Basic
import PluginFlow.Text.Ascii

/-!
Numerals as authors write them in texts: an optional sign, digits with at most one point, an
optional power of ten. The value is the number nearest to the decimal.
-/

namespace PluginFlow.Number

open Text (isDigit digitValue)

def digitsValue (ds : List Char) : Nat :=
  ds.foldl (fun n c => 10 * n + digitValue c) 0

def splitSign : List Char → Bool × List Char
  | '-' :: rest => (true, rest)
  | '+' :: rest => (false, rest)
  | rest => (false, rest)

def integer? (text : List Char) : Option Int :=
  let (negative, ds) := splitSign text
  if ds.isEmpty || !ds.all isDigit then none
  else some (if negative then -(digitsValue ds : Int) else digitsValue ds)

/-- The power of ten behind a mantissa: nothing, or a marked integer. -/
def exponentPart? : List Char → Option Int
  | [] => some 0
  | c :: rest => if c = 'e' ∨ c = 'E' then integer? rest else none

/-- The number nearest to `digits · 10 ^ exponent`. A decimal far outside the range is decided
by its size alone. -/
def ofDecimal (negative : Bool) (digits : Nat) (exponent : Int) : Number :=
  let size := exponent + (digits.log2 : Int) / 4
  if digits = 0 ∨ exponent + (digits.log2 : Int) < -400 then ofRatio negative 0 1
  else if 400 < size then .infinite negative
  else ofRatio negative (digits * Nat.pow 10 exponent.toNat * unit) (Nat.pow 10 (-exponent).toNat)

def decimal? (text : List Char) : Option Number :=
  let (negative, body) := splitSign text
  let whole := body.takeWhile isDigit
  let afterWhole := body.dropWhile isDigit
  let (fraction, rest) := match afterWhole with
    | '.' :: r => (r.takeWhile isDigit, r.dropWhile isDigit)
    | r => ([], r)
  if whole.isEmpty && fraction.isEmpty then none
  else (exponentPart? rest).map fun e =>
    ofDecimal negative (digitsValue (whole ++ fraction)) (e - fraction.length)

end PluginFlow.Number
