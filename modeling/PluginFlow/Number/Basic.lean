/-!
Binary64 numbers, counted in units of 2⁻¹⁰⁷⁴. Every finite number is a whole count of units with
at most fifty-three significant bits, so each operation is exact arithmetic on whole numbers
followed by one rounding to the nearest count, a half going to the even neighbour.
-/

namespace PluginFlow

namespace Number

def unit : Nat := Nat.pow 2 1074

def ceiling : Nat := Nat.pow 2 2098

/-- The distance between neighbouring magnitudes with fifty-three significant bits. -/
def spacing (units : Nat) : Nat := Nat.pow 2 (units.log2 - 52)

def Representable (units : Nat) : Prop :=
  units < ceiling ∧ spacing units ∣ units

instance (units : Nat) : Decidable (Representable units) :=
  inferInstanceAs (Decidable (_ ∧ _))

end Number

inductive Number where
  | nan
  | infinite (negative : Bool)
  | finite (negative : Bool) (units : Nat) (fits : Number.Representable units)
  deriving DecidableEq

namespace Number

/-- The whole number nearest to `n / d`, a half going to the even one. -/
def nearest (n d : Nat) : Nat :=
  let q := n / d
  let r := n % d
  if 2 * r < d then q else if d < 2 * r then q + 1 else q + q % 2

theorem nearest_le (n d : Nat) : nearest n d ≤ n / d + 1 := by
  simp only [nearest]
  split
  · omega
  · split <;> omega

def roundUnits (n d : Nat) : Nat :=
  let s := spacing (n / d)
  nearest n (d * s) * s

theorem spacing_dvd_shift {m : Nat} (k : Nat) (h : m ≤ Nat.pow 2 53) :
    spacing (m * Nat.pow 2 k) ∣ m * Nat.pow 2 k := by
  rw [spacing]
  simp only [Nat.pow_eq] at h ⊢
  rcases Nat.lt_or_eq_of_le h with h | rfl
  · rcases Nat.eq_zero_or_pos m with rfl | hm
    · simp
    · have hlog : (m * 2 ^ k).log2 < 53 + k := by
        rw [Nat.log2_lt (Nat.ne_of_gt (Nat.mul_pos hm (Nat.two_pow_pos k))), Nat.pow_add]
        exact Nat.mul_lt_mul_of_pos_right h (Nat.two_pow_pos k)
      exact Nat.dvd_trans (Nat.pow_dvd_pow 2 (by omega)) (Nat.dvd_mul_left ..)
  · rw [← Nat.pow_add, Nat.log2_two_pow]
    exact Nat.pow_dvd_pow 2 (by omega)

theorem nearest_le_two_pow (n d : Nat) :
    nearest n (d * spacing (n / d)) ≤ Nat.pow 2 53 := by
  refine Nat.le_trans (nearest_le _ _) ?_
  rw [← Nat.div_div_eq_div_mul]
  have hq : n / d < 2 ^ ((n / d).log2 + 1) := Nat.lt_log2_self
  have : n / d / spacing (n / d) < 2 ^ 53 := by
    rw [spacing, Nat.pow_eq, Nat.div_lt_iff_lt_mul (Nat.two_pow_pos _), ← Nat.pow_add]
    exact Nat.lt_of_lt_of_le hq (Nat.pow_le_pow_right (by decide) (by omega))
  rw [Nat.pow_eq]
  omega

theorem spacing_dvd_roundUnits (n d : Nat) : spacing (roundUnits n d) ∣ roundUnits n d :=
  spacing_dvd_shift _ (nearest_le_two_pow n d)

/-- The number nearest to a quotient of units, infinite past the largest finite one. -/
def ofRatio (negative : Bool) (n d : Nat) : Number :=
  if h : roundUnits n d < ceiling then
    .finite negative (roundUnits n d) ⟨h, spacing_dvd_roundUnits n d⟩
  else .infinite negative

def ofInt (i : Int) : Number :=
  ofRatio (i < 0) (i.natAbs * unit) 1

def ofNat (n : Nat) : Number := ofInt n

def zero : Number := .finite false 0 (by decide +kernel)

instance : Inhabited Number := ⟨zero⟩

def isFinite : Number → Bool
  | .finite .. => true
  | _ => false

def neg : Number → Number
  | .nan => .nan
  | .infinite s => .infinite !s
  | .finite s u h => .finite (!s) u h

def signed (negative : Bool) (units : Nat) : Int :=
  if negative then -(units : Int) else units

/-- Where a number stands among all numbers, in units. The two zeros stand together, the
infinities at the ceiling; `nan` stands nowhere. -/
def position? : Number → Option Int
  | .nan => none
  | .infinite s => some (signed s ceiling)
  | .finite s u _ => some (signed s u)

def related (r : Int → Int → Bool) (a b : Number) : Bool :=
  match a.position?, b.position? with
  | some x, some y => r x y
  | _, _ => false

/-- Numeric equality: the two zeros are equal and `nan` is not equal to itself. -/
def equals : Number → Number → Bool := related (· == ·)

def less : Number → Number → Bool := related (· < ·)

def atMost : Number → Number → Bool := related (· ≤ ·)

def add : Number → Number → Number
  | .nan, _ => .nan
  | _, .nan => .nan
  | .infinite s, .infinite t => if s = t then .infinite s else .nan
  | .infinite s, .finite .. => .infinite s
  | .finite .., .infinite t => .infinite t
  | .finite s u _, .finite t v _ =>
    let sum := signed s u + signed t v
    ofRatio (if sum = 0 then s && t else sum < 0) sum.natAbs 1

def truncate? : Number → Option Int
  | .finite s u _ => some (signed s (u / unit))
  | _ => none

def isIntegral : Number → Bool
  | .finite _ u _ => u % unit == 0
  | _ => false

def minInt64 : Int := -9223372036854775808

def maxInt64 : Int := 9223372036854775807

def clampInt64 (i : Int) : Int := max minInt64 (min maxInt64 i)

/-- The integer part, held within sixty-four bits. -/
def toInt64? (n : Number) : Option Int := n.truncate?.map clampInt64

theorem equals_comm (a b : Number) : a.equals b = b.equals a := by
  simp only [equals, related]
  cases a.position? <;> cases b.position? <;> simp [Bool.beq_comm]

theorem equals_self (a : Number) : a.equals a = true ↔ a ≠ .nan := by
  cases a <;> simp [equals, related, position?]

end Number
end PluginFlow
