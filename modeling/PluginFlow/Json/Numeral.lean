import PluginFlow.Number.Numeral
import PluginFlow.Json.Draft

/-!
The number that the digits of a JSON text stand for. Whole numbers of sixty-four bits are exact.
Every other numeral is cut to the digits that fit sixty-four bits and scaled by one power of ten,
each step rounded, so that a long numeral may land beside the nearest number.
-/

namespace PluginFlow.Json

open Number (unit roundUnits ceiling digitsValue signed)

def wordLimit : Nat := Nat.pow 2 64

def cutDigits : Nat → List Char → Nat × Nat
  | n, [] => (n, 0)
  | n, c :: rest =>
    let next := 10 * n + Text.digitValue c
    if next < wordLimit then cutDigits next rest else (n, rest.length + 1)

/-- The digits that count and the power of ten of the last of them. Digits of the whole part
that are cut count as zeros; a fraction goes on with its own digits. -/
def Numeral.significand (n : Numeral) : Nat × Int :=
  let (whole, dropped) := cutDigits 0 n.whole
  let fraction := n.fraction.getD []
  let (digits, unread) := cutDigits whole fraction
  (digits, (dropped : Int) - (fraction.length - unread : Nat))

def largestPower : Nat := 308

def powerUnits (k : Nat) : Nat := roundUnits (Nat.pow 10 k * unit) 1

def scaleDown : Nat → Nat → Nat → Nat
  | 0, units, _ => units
  | tries + 1, units, k =>
    if k ≤ largestPower then roundUnits (units * unit) (powerUnits k)
    else if units = 0 then 0
    else scaleDown tries (roundUnits (units * unit) (powerUnits largestPower)) (k - largestPower)

/-- Scales a magnitude by a power of ten; nothing when it grows too large. -/
def scale? (units : Nat) (exponent : Int) : Option Nat :=
  if 0 ≤ exponent then
    if exponent.toNat ≤ largestPower then
      let scaled := roundUnits (units * powerUnits exponent.toNat) unit
      if scaled < ceiling then some scaled else none
    else if units = 0 then some 0
    else none
  else some (scaleDown 8 units (-exponent).toNat)

/-- Largest power of ten that is written out; a larger one decides the number alone. -/
def powerLimit : Nat := 2147483647

def Numeral.number? (n : Numeral) : Option Number :=
  let (digits, exponent) := n.significand
  let magnitude : Option Nat := match n.power with
    | none => scale? (roundUnits (digits * unit) 1) exponent
    | some (down, ds) =>
      let power := digitsValue ds
      if powerLimit < power then
        if digits = 0 ∨ down then some 0 else none
      else
        let total := if down then exponent - power else exponent + power
        scale? (roundUnits (digits * unit) 1) (max (-powerLimit - 1) (min powerLimit total))
  magnitude.map fun units => Number.ofRatio n.negative units 1

/-- The integer of a numeral written as digits only that fits sixty-four bits. A negative zero
is no integer. -/
def Numeral.integer? (n : Numeral) : Option Int :=
  match n.fraction, n.power with
  | none, none =>
    let value := digitsValue n.whole
    if n.negative then
      if 0 < value ∧ value ≤ Nat.pow 2 63 then some (-value) else none
    else if value < wordLimit then some value else none
  | _, _ => none

end PluginFlow.Json
