import PluginFlow.Number.Shortest

/-!
How the shortest decimal of a number is written: positionally or with an exponent, with or
without a point behind a whole number.
-/

namespace PluginFlow.Number

structure Layout where
  tie : Tie
  /-- The powers of ten of the first digit that are written without an exponent; all without
  bounds. -/
  positional : Option (Int × Int)
  /-- Whether `.0` ends a whole number. -/
  marksWhole : Bool
  infinity : String
  nan : String

/-- Decimal text without an exponent, `5` or `0.001`. -/
def Layout.plain : Layout := ⟨.up, none, false, "inf", "NaN"⟩

/-- Decimal text of JSON documents: `5.0`, `0.00001`, `1e+16`. A number that is not finite has no
JSON form and is written `null`. -/
def Layout.json : Layout := ⟨.toEven, some (-5, 15), true, "null", "null"⟩

def natDigits (n : Nat) : List Char := Nat.toDigits 10 n

def intText (i : Int) : String :=
  String.ofList ((if i < 0 then ['-'] else []) ++ natDigits i.natAbs)

def Decimal.positional (d : Decimal) (marksWhole : Bool) : List Char :=
  let ds := natDigits d.digits
  if 0 ≤ d.exponent then
    ds ++ List.replicate d.exponent.toNat '0' ++ (if marksWhole then ['.', '0'] else [])
  else
    let places := (-d.exponent).toNat
    let padded := List.replicate (places + 1 - ds.length) '0' ++ ds
    padded.take (padded.length - places) ++ '.' :: padded.drop (padded.length - places)

def Decimal.scientific (d : Decimal) (leading : Int) : List Char :=
  let ds := natDigits d.digits
  ds.take 1 ++ (if ds.length = 1 then [] else '.' :: ds.drop 1) ++
    'e' :: (if leading < 0 then '-' else '+') :: natDigits leading.natAbs

def Decimal.leading (d : Decimal) : Int :=
  d.exponent + (natDigits d.digits).length - 1

def Layout.decimalText (layout : Layout) (d : Decimal) : List Char :=
  match layout.positional with
  | some (low, high) =>
    if low ≤ d.leading ∧ d.leading ≤ high then d.positional layout.marksWhole
    else d.scientific d.leading
  | none => d.positional layout.marksWhole

def write (layout : Layout) : Number → String
  | .nan => layout.nan
  | .infinite negative =>
    if negative && layout.infinity ≠ layout.nan then "-" ++ layout.infinity else layout.infinity
  | .finite negative units _ =>
    let body :=
      if units = 0 then layout.decimalText ⟨0, 0⟩
      else layout.decimalText (shortest layout.tie units)
    String.ofList ((if negative then ['-'] else []) ++ body)

def plainText (n : Number) : String := n.write .plain

/-- Text without an exponent, whole numbers marked by `.0`. -/
def markedText (n : Number) : String := n.write { Layout.plain with marksWhole := true }

end PluginFlow.Number
