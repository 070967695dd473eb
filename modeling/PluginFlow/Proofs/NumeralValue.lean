import PluginFlow.Proofs.NumeralText

/-!
The numbers that numerals stand for. A numeral with few digits and a small power of ten is read as
the number nearest to it, so a number with such a numeral is read back from its text.
-/

namespace PluginFlow

open Number (Decimal unit roundUnits digitsValue natDigits ceiling)

namespace Json

def Numeral.digits (n : Numeral) : Nat := digitsValue (n.whole ++ n.fraction.getD [])

def Numeral.marked (n : Numeral) : Int :=
  match n.power with
  | none => 0
  | some (down, ds) => if down then -(digitsValue ds : Int) else digitsValue ds

def Numeral.exponent (n : Numeral) : Int := n.marked - (n.fraction.getD []).length

/-- Digits that fit sixty-four bits are all kept. -/
theorem cutDigits_eq {start : Nat} {ds : List Char}
    (fits : start * 10 ^ ds.length + digitsValue ds < wordLimit) :
    cutDigits start ds = (start * 10 ^ ds.length + digitsValue ds, 0) := by
  induction ds generalizing start with
  | nil => simp [cutDigits, digitsValue]
  | cons c rest ih =>
    have shift : start * 10 ^ (c :: rest).length + digitsValue (c :: rest) =
        (10 * start + Text.digitValue c) * 10 ^ rest.length + digitsValue rest := by
      rw [show c :: rest = [c] ++ rest from rfl, Number.digitsValue_append, List.length_append,
        List.length_singleton, Nat.pow_add, digitsValue, List.foldl_cons, List.foldl_nil]
      ring
    rw [shift] at fits ⊢
    have next : 10 * start + Text.digitValue c < wordLimit := by
      have := Nat.le_mul_of_pos_right (10 * start + Text.digitValue c)
        (Nat.pow_pos (show 0 < 10 by decide) : 0 < 10 ^ rest.length)
      omega
    rw [cutDigits, if_pos next]
    exact ih fits

theorem Numeral.significand_eq {n : Numeral} (fits : n.digits < wordLimit) :
    n.significand = (n.digits, -((n.fraction.getD []).length : Int)) := by
  unfold digits at fits ⊢
  rw [Number.digitsValue_append] at fits ⊢
  have whole : cutDigits 0 n.whole = (digitsValue n.whole, 0) := by
    have front := Nat.le_mul_of_pos_right (digitsValue n.whole)
      (Nat.pow_pos (show 0 < 10 by decide) : 0 < 10 ^ (n.fraction.getD []).length)
    have := @cutDigits_eq 0 n.whole (by omega)
    simpa using this
  simp only [significand, whole, cutDigits_eq fits]
  simp

/-- Small powers of ten are exact. -/
theorem powerUnits_eq {k : Nat} (small : k ≤ 22) : powerUnits k = 10 ^ k * unit := by
  have all : ∀ k ≤ 22, powerUnits k = 10 ^ k * unit := by decide +kernel
  exact all k small

/-- Few digits times a small power of ten are rounded once. -/
theorem scale?_eq {m : Nat} {e : Int} (few : m ≤ 2 ^ 53) (small : e.natAbs ≤ 22)
    (finite : (Decimal.mk m e).nearest < ceiling) :
    scale? (roundUnits (m * unit) 1) e = some (Decimal.mk m e).nearest := by
  have one := Number.unit_pos
  rw [Number.roundUnits_self (Number.spacing_dvd_whole few)]
  unfold scale?
  split
  case isTrue positive =>
    have power : e.toNat ≤ 22 := by omega
    have largest : e.toNat ≤ largestPower := power.trans (by decide)
    have zero : (-e).toNat = 0 := by omega
    have scaled : roundUnits (m * unit * powerUnits e.toNat) unit = (Decimal.mk m e).nearest := by
      rw [powerUnits_eq power, Decimal.nearest, zero, Nat.pow_zero,
        ← Number.roundUnits_mul_mul _ 1 one]
      generalize unit = one'
      congr 1
      · ring
      · ring
    rw [if_pos largest, scaled]
    exact if_pos finite
  case isFalse negative =>
    have power : (-e).toNat ≤ 22 := by omega
    have largest : (-e).toNat ≤ largestPower := power.trans (by decide)
    have zero : e.toNat = 0 := by omega
    rw [scaleDown, if_pos largest, powerUnits_eq power, Number.roundUnits_mul_mul _ _ one,
      Decimal.nearest, zero, Nat.pow_zero, Nat.mul_one]

/-- A numeral with few digits, the last of them at a small power of ten. -/
structure Numeral.Modest (n : Numeral) : Prop where
  digits : n.digits ≤ 2 ^ 53
  exponent : n.exponent.natAbs ≤ 22

/-- A modest numeral is read as the number nearest to it. -/
theorem Numeral.number?_eq {n : Numeral} (h : n.Modest) (marked : n.marked.natAbs ≤ powerLimit)
    (finite : (Decimal.mk n.digits n.exponent).nearest < ceiling) :
    n.number? =
      some (Number.ofRatio n.negative (Decimal.mk n.digits n.exponent).nearest 1) := by
  have few : n.digits < wordLimit := Nat.lt_of_le_of_lt h.digits (by decide)
  have small := h.exponent
  have scaled := scale?_eq h.digits h.exponent finite
  unfold number?
  simp only [significand_eq few]
  unfold exponent Numeral.marked at *
  cases power : n.power with
  | none =>
    simp only [power, zero_sub] at scaled ⊢
    rw [scaled, Option.map_some]
  | some p =>
    obtain ⟨down, ds⟩ := p
    simp only [power] at small marked scaled ⊢
    have near : ¬ powerLimit < digitsValue ds := by
      cases down <;> simp at marked <;> omega
    have limit : 22 ≤ (powerLimit : Int) := by decide
    rw [if_neg near]
    cases down with
    | true =>
      simp only [if_true] at small scaled ⊢
      rw [max_eq_right (by omega), min_eq_right (by omega), neg_sub_comm, scaled,
        Option.map_some]
    | false =>
      simp only [Bool.false_eq_true, if_false] at small scaled ⊢
      rw [max_eq_right (by omega), min_eq_right (by omega), neg_add_eq_sub, scaled, Option.map_some]

end Json

namespace Number

theorem Decimal.digitsValue_padded (d : Decimal) : digitsValue d.padded = d.digits := by
  rw [padded, digitsValue_append, digitsValue_replicate, digitsValue_natDigits, Nat.zero_mul,
    Nat.zero_add]

/-- A decimal that is written without a fraction ends in a zero behind the point. -/
theorem digitsValue_whole (d : Decimal) :
    digitsValue (natDigits d.digits ++ List.replicate d.exponent.toNat '0' ++ ['0']) =
      d.digits * 10 ^ (d.exponent.toNat + 1) := by
  rw [digitsValue_append, digitsValue_append, digitsValue_replicate, digitsValue_natDigits,
    List.length_replicate, Nat.pow_succ, Nat.add_zero, Nat.mul_assoc]
  rfl

theorem nearest_whole (d : Decimal) (whole : 0 ≤ d.exponent) :
    (Decimal.mk (digitsValue
      (natDigits d.digits ++ List.replicate d.exponent.toNat '0' ++ ['0'])) (-1)).nearest =
      d.nearest := by
  rw [digitsValue_whole, Decimal.nearest_times_pow]
  congr 2
  push_cast
  omega

/-- A decimal that is written with a power of ten keeps its digits. -/
theorem numeral_of_far {d : Decimal} (far : ¬ (-5 ≤ d.leading ∧ d.leading ≤ 15)) (negative : Bool) :
    (d.numeral negative).digits = d.digits ∧ (d.numeral negative).marked = d.leading ∧
      (d.numeral negative).exponent = d.exponent := by
  have marked : (if d.leading < 0 then -(d.leading.natAbs : Int) else d.leading.natAbs) =
      d.leading := by
    split <;> omega
  have long : 0 < (natDigits d.digits).length := List.length_pos_iff.2 (natDigits_ne_nil _)
  unfold Decimal.numeral
  rw [if_neg far]
  simp only [Json.Numeral.digits, Json.Numeral.exponent, Json.Numeral.marked,
    digitsValue_natDigits, decide_eq_true_eq, marked]
  split
  case isTrue one =>
    refine ⟨?_, trivial, ?_⟩
    · rw [Option.getD_none, List.append_nil, List.take_of_length_le (by omega),
        digitsValue_natDigits]
    · rw [Decimal.leading, one]
      simp
  case isFalse more =>
    refine ⟨?_, trivial, ?_⟩
    · rw [Option.getD_some, List.take_append_drop, digitsValue_natDigits]
    · rw [Option.getD_some, List.length_drop, Decimal.leading]
      omega

/-- A decimal and the numeral that a text holds it as have the same value. -/
theorem nearest_numeral (negative : Bool) (d : Decimal) :
    (Decimal.mk (d.numeral negative).digits (d.numeral negative).exponent).nearest = d.nearest := by
  by_cases near : -5 ≤ d.leading ∧ d.leading ≤ 15
  · unfold Decimal.numeral
    rw [if_pos near]
    split
    case isTrue whole => exact nearest_whole d whole
    case isFalse small =>
      have long := d.length_padded
      simp only [Json.Numeral.digits, Json.Numeral.exponent, Json.Numeral.marked,
        Option.getD_some, List.take_append_drop, d.digitsValue_padded, List.length_drop]
      congr 2
      omega
  · obtain ⟨digits, -, exponent⟩ := numeral_of_far near negative
    rw [digits, exponent]

/-- A modest numeral of a decimal is not marked with a large power of ten. -/
theorem marked_numeral {negative : Bool} {d : Decimal} (h : (d.numeral negative).Modest) :
    (d.numeral negative).marked.natAbs ≤ Json.powerLimit := by
  have limit : 38 ≤ Json.powerLimit := by decide
  by_cases near : -5 ≤ d.leading ∧ d.leading ≤ 15
  · have zero : (d.numeral negative).marked = 0 := by
      unfold Decimal.numeral
      rw [if_pos near]
      split <;> rfl
    rw [zero]
    exact Nat.zero_le _
  · obtain ⟨digits, marked, exponent⟩ := numeral_of_far near negative
    have few := h.digits
    have small := h.exponent
    rw [digits] at few
    rw [exponent] at small
    have short : (natDigits d.digits).length ≤ 16 := by
      rw [natDigits, Nat.length_toDigits_le_iff (by decide) (by decide)]
      exact Nat.lt_of_le_of_lt few (by decide)
    rw [marked, Decimal.leading]
    omega

theorem nearest_decimal {units : Nat} (fits : Representable units) :
    (decimal units).nearest = units := by
  unfold decimal
  split
  case isTrue zero =>
    rw [zero, Decimal.nearest, Nat.zero_mul]
    rfl
  case isFalse more => exact nearest_shortest (Nat.pos_of_ne_zero more) fits.2

theorem ofRatio_self (negative : Bool) {units : Nat} (fits : Representable units) :
    ofRatio negative units 1 = .finite negative units fits := by
  have same := roundUnits_self fits.2
  unfold ofRatio
  simp only [same, fits.1, dif_pos]

/-- A number whose text is a modest numeral is read back from it. -/
theorem number?_numeral {negative : Bool} {units : Nat} (fits : Representable units)
    (h : ((decimal units).numeral negative).Modest) :
    ((decimal units).numeral negative).number? = some (.finite negative units fits) := by
  have value := (nearest_numeral negative (decimal units)).trans (nearest_decimal fits)
  have sign : ((decimal units).numeral negative).negative = negative := by
    unfold Decimal.numeral
    split
    · split <;> rfl
    · rfl
  rw [Json.Numeral.number?_eq h (marked_numeral h) (by rw [value]; exact fits.1), value, sign,
    ofRatio_self negative fits]

inductive Modest : Number → Prop
  | finite {negative : Bool} {units : Nat} (fits : Representable units)
      (numeral : ((decimal units).numeral negative).Modest) : Modest (.finite negative units fits)

/-- Whole numbers of forty-nine bits are modest. -/
theorem modest_whole {n : Nat} (small : n ≤ 2 ^ 49) (negative : Bool) :
    ((decimal (n * unit)).numeral negative).Modest := by
  rcases Nat.eq_zero_or_pos n with rfl | pos
  · rw [Nat.zero_mul]
    cases negative with
    | true => exact ⟨by decide, by decide⟩
    | false => exact ⟨by decide, by decide⟩
  · have more : n * unit ≠ 0 := Nat.ne_of_gt (Nat.mul_pos pos unit_pos)
    obtain ⟨k, exponent, digits⟩ := @shortest_whole .toEven n pos (by omega)
    rw [decimal, if_neg more]
    generalize shortest .toEven (n * unit) = d at *
    have power : k ≤ 14 := by
      by_contra far
      have := Nat.pow_le_pow_right (show 0 < 10 by decide) (show 15 ≤ k by omega)
      have := Nat.le_of_dvd pos (Dvd.intro_left d.digits digits)
      omega
    have short : (natDigits d.digits).length ≤ 15 - k := by
      rw [natDigits, Nat.length_toDigits_le_iff (by decide) (by omega)]
      refine Nat.lt_of_mul_lt_mul_right (a := 10 ^ k) ?_
      rw [digits, ← Nat.pow_add, show 15 - k + k = 15 by omega]
      omega
    have near : -5 ≤ d.leading ∧ d.leading ≤ 15 := by
      rw [Decimal.leading, exponent]
      omega
    unfold Decimal.numeral
    rw [if_pos near, if_pos (by omega)]
    refine ⟨?_, (by decide : ((0 : Int) - 1).natAbs ≤ 22)⟩
    rw [Json.Numeral.digits, Option.getD_some, digitsValue_whole, exponent, Int.toNat_natCast,
      Nat.pow_succ, ← Nat.mul_assoc, digits]
    omega

theorem modest_ofInt {i : Int} (small : i.natAbs ≤ 2 ^ 49) : (ofInt i).Modest := by
  have finite : 2 ^ 49 * unit < ceiling := by decide +kernel
  have fits : Representable (i.natAbs * unit) :=
    ⟨Nat.lt_of_le_of_lt (Nat.mul_le_mul_right _ small) finite,
      spacing_dvd_whole (small.trans (by decide))⟩
  rw [ofInt, ofRatio_self _ fits]
  exact .finite fits (modest_whole small _)

end Number
end PluginFlow
