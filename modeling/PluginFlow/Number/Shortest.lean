import PluginFlow.Number.Basic

/-!
The fewest decimal digits that read back. A magnitude is the nearest one to every real in an
interval around it, whose ends belong to it when its last significant bit is even. For one digit,
two digits and so on, the two neighbours of the magnitude on that decimal grid are tried; the
first grid with a neighbour in the interval wins, and of two the nearer.
-/

namespace PluginFlow.Number

inductive Tie
  | toEven
  | up
  deriving DecidableEq, Repr

structure Decimal where
  digits : Nat
  exponent : Int
  deriving DecidableEq, Repr

/-- Four times the distances from a magnitude to the ends of its interval, below and above. The
distance halves below a power of two. -/
def margins (units : Nat) : Nat × Nat :=
  let s := spacing units
  (if units = Nat.pow 2 units.log2 ∧ s ≠ 1 then s else 2 * s, 2 * s)

/-- Whether `scaled`, four times a magnitude over `scale`, reads back as `units`. -/
def readsBack (units scaled scale : Nat) : Bool :=
  let (below, above) := margins units
  let low := (4 * units - below) * scale
  let high := (4 * units + above) * scale
  if units / spacing units % 2 = 0 then low ≤ scaled && scaled ≤ high
  else low < scaled && scaled < high

/-- The neighbour of a magnitude that reads back on the grid of multiples of `10 ^ exponent`. -/
def onGrid? (tie : Tie) (units : Nat) (exponent : Int) : Option Nat :=
  let step := 4 * unit * Nat.pow 10 exponent.toNat
  let scale := Nat.pow 10 (-exponent).toNat
  let target := 4 * units * scale
  let q := target / step
  let down := readsBack units (q * step) scale
  let up := readsBack units ((q + 1) * step) scale
  let r := target % step
  if down && up then
    if 2 * r < step then some q
    else if step < 2 * r then some (q + 1)
    else match tie with
      | .toEven => some (q + q % 2)
      | .up => some (q + 1)
  else if down then some q
  else if up then some (q + 1)
  else none

def leadingPower (n : Nat) : Nat :=
  if n < 10 then 0 else leadingPower (n / 10) + 1
termination_by n
decreasing_by omega

def raisingPower : Nat → Nat → Nat
  | 0, _ => 0
  | tries + 1, units => if unit ≤ units then 0 else raisingPower tries (10 * units) + 1

def leadingExponent (units : Nat) : Int :=
  if unit ≤ units then leadingPower (units / unit) else -(raisingPower 400 units : Nat)

def Decimal.normalize : Nat → Decimal → Decimal
  | 0, d => d
  | tries + 1, d =>
    if d.digits ≠ 0 ∧ d.digits % 10 = 0 then normalize tries ⟨d.digits / 10, d.exponent + 1⟩ else d

/-- Tries grids of more and more digits. Seventeen always suffice. -/
def shortestFrom (tie : Tie) (units : Nat) (leading : Int) : Nat → Nat → Decimal
  | 0, _ => ⟨0, 0⟩
  | tries + 1, count =>
    let exponent := leading - count
    match onGrid? tie units exponent with
    | some digits => (Decimal.mk digits exponent).normalize 20
    | none => shortestFrom tie units leading tries (count + 1)

def shortest (tie : Tie) (units : Nat) : Decimal :=
  shortestFrom tie units (leadingExponent units) 18 0

end PluginFlow.Number
