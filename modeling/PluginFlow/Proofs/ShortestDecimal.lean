import Mathlib.Tactic.Positivity
import PluginFlow.Proofs.Rounding

/-!
The shortest decimal of a magnitude. It is found with at most eighteen digits, and the magnitude is
the nearest one to it.
-/

namespace PluginFlow.Number

theorem readsBack_self (units : Nat) {scale : Nat} (pos : 0 < scale) :
    readsBack units (4 * units * scale) scale = true := by
  have bit : 0 < spacing units := Nat.two_pow_pos _
  obtain ⟨below, -, above⟩ := margins_bounds units
  have high : 4 * units * scale < (4 * units + (margins units).2) * scale :=
    Nat.mul_lt_mul_of_pos_right (by omega) pos
  unfold readsBack
  simp only
  split
  · rw [Bool.and_eq_true, decide_eq_true_eq, decide_eq_true_eq]
    exact ⟨Nat.mul_le_mul_right _ (Nat.sub_le _ _), Nat.le_of_lt high⟩
  · rename_i odd
    have positive : 0 < units := by
      rcases Nat.eq_zero_or_pos units with rfl | h
      · rw [Nat.zero_div] at odd
        exact absurd rfl odd
      · exact h
    rw [Bool.and_eq_true, decide_eq_true_eq, decide_eq_true_eq]
    exact ⟨Nat.mul_lt_mul_of_pos_right (by omega) pos, high⟩

/-- A number that fits is its own nearest one. -/
theorem roundUnits_self {units : Nat} (fits : spacing units ∣ units) : roundUnits units 1 = units := by
  have rounded := roundUnits_of_readsBack fits Nat.one_pos (readsBack_self units Nat.one_pos)
  rwa [Nat.mul_one, Nat.mul_one, Nat.mul_comm 4 units, ← Nat.one_mul 4,
    roundUnits_mul_mul _ _ (by decide)] at rounded

theorem readsBack_of_onGrid? {tie : Tie} {units q : Nat} {exponent : Int}
    (h : onGrid? tie units exponent = some q) :
    readsBack units (q * (4 * unit * Nat.pow 10 exponent.toNat))
      (Nat.pow 10 (-exponent).toNat) = true := by
  unfold onGrid? at h
  simp only at h
  generalize 4 * unit * Nat.pow 10 exponent.toNat = step at *
  generalize Nat.pow 10 (-exponent).toNat = scale at *
  generalize 4 * units * scale / step = p at *
  cases down : readsBack units (p * step) scale with
  | false =>
    cases up : readsBack units ((p + 1) * step) scale with
    | false =>
      simp only [down, up] at h
      cases h
    | true =>
      simp only [down, up] at h
      cases h
      exact up
  | true =>
    cases up : readsBack units ((p + 1) * step) scale with
    | false =>
      simp only [down, up] at h
      cases h
      exact down
    | true =>
      have either : q = p ∨ q = p + 1 := by
        simp only [down, up] at h
        revert h
        cases tie <;> grind
      rcases either with rfl | rfl
      · exact down
      · exact up

theorem pos_of_onGrid? {tie : Tie} {units q : Nat} {exponent : Int} (pos : 0 < units)
    (fits : spacing units ∣ units) (h : onGrid? tie units exponent = some q) : 0 < q := by
  rcases Nat.eq_zero_or_pos q with rfl | positive
  · have low := (bounds_of_readsBack (readsBack_of_onGrid? h)).1
    rw [Nat.zero_mul, Nat.zero_add] at low
    have least : 4 * units ≤ (margins units).1 :=
      Nat.le_of_mul_le_mul_right low (Nat.pow_pos (by decide))
    have most := (margins_bounds units).2.1
    have : spacing units ≤ units := Nat.le_of_dvd pos fits
    omega
  · exact positive

/-- The search ends at the first grid on which there is a decimal. -/
theorem exists_shortestFrom {tie : Tie} {units : Nat} {leading least : Int} {tries count : Nat}
    (found : (onGrid? tie units least).isSome) (inside : least ≤ leading - count)
    (reached : leading - count < least + tries) :
    ∃ exponent q, least ≤ exponent ∧ onGrid? tie units exponent = some q ∧
      shortestFrom tie units leading tries count = (Decimal.mk q exponent).normalize 20 := by
  induction tries generalizing count with
  | zero => omega
  | succ tries ih =>
    rw [shortestFrom]
    cases here : onGrid? tie units (leading - count) with
    | some q => exact ⟨leading - count, q, inside, here, rfl⟩
    | none =>
      have later : leading - count ≠ least := by
        rintro rfl
        rw [here] at found
        cases found
      exact ih (by omega) (by omega)

theorem leadingPower_le {n : Nat} (pos : 0 < n) : 10 ^ leadingPower n ≤ n := by
  induction n using leadingPower.induct with
  | case1 n small =>
    rw [leadingPower, if_pos small]
    omega
  | case2 n large ih =>
    rw [leadingPower, if_neg large, Nat.pow_succ]
    have := ih (by omega)
    omega

theorem le_raisingPower {tries units : Nat} (h : unit ≤ units * 10 ^ tries) :
    unit ≤ units * 10 ^ raisingPower tries units := by
  induction tries generalizing units with
  | zero => exact h
  | succ tries ih =>
    rw [raisingPower]
    split
    · rwa [Nat.pow_zero, Nat.mul_one]
    · rw [Nat.pow_succ, ← Nat.mul_assoc, Nat.mul_right_comm, Nat.mul_comm units 10]
      refine ih ?_
      rwa [Nat.mul_comm 10, Nat.mul_assoc, ← Nat.pow_succ']

theorem unit_pos : 0 < unit := by decide +kernel

theorem unit_le_ten_pow : unit ≤ 10 ^ 400 := by decide +kernel

/-- The power of ten of the first digit is at most the number. -/
theorem unit_le_of_leadingExponent {units : Nat} (pos : 0 < units) :
    unit * 10 ^ (leadingExponent units).toNat ≤ units * 10 ^ (-leadingExponent units).toNat := by
  have one := unit_pos
  have most := unit_le_ten_pow
  unfold leadingExponent
  generalize hu : unit = one' at *
  split
  case isTrue whole =>
    have product := Nat.mul_le_mul_left one' (leadingPower_le (Nat.div_pos whole one))
    have quotient := Nat.mul_div_le units one'
    have zero : (-(leadingPower (units / one') : Int)).toNat = 0 := by omega
    rw [zero, Nat.pow_zero, Nat.mul_one, Int.toNat_natCast]
    exact product.trans quotient
  case isFalse part =>
    have enough : unit ≤ units * 10 ^ 400 := by
      rw [hu]
      exact most.trans (Nat.le_mul_of_pos_left _ pos)
    have raised := le_raisingPower enough
    have zero : (-(raisingPower 400 units : Int)).toNat = 0 := by omega
    rw [zero, Nat.pow_zero, Nat.mul_one, neg_neg, Int.toNat_natCast]
    rwa [hu] at raised

theorem lt_spacing (units : Nat) : units < 2 ^ 53 * spacing units := by
  rw [spacing, Nat.pow_eq, ← Nat.pow_add]
  exact Nat.lt_of_lt_of_le Nat.lt_log2_self (Nat.pow_le_pow_right (by decide) (by omega))

/-- On the grid of eighteen digits the magnitude is many steps away from zero. -/
theorem step_le_target {units : Nat} (pos : 0 < units) {exponent : Int}
    (h : exponent = leadingExponent units - 17) :
    4 * unit * 10 ^ exponent.toNat * 10 ^ 17 ≤ 4 * units * 10 ^ (-exponent).toNat := by
  have first := unit_le_of_leadingExponent pos
  generalize leadingExponent units = leading at *
  generalize unit = one at *
  have powers : exponent.toNat + 17 + (-leading).toNat = leading.toNat + (-exponent).toNat := by
    omega
  refine Nat.le_of_mul_le_mul_right ?_ (Nat.pow_pos (show 0 < 10 by decide) : 0 < 10 ^ (-leading).toNat)
  calc 4 * one * 10 ^ exponent.toNat * 10 ^ 17 * 10 ^ (-leading).toNat
      = 4 * one * 10 ^ (exponent.toNat + 17 + (-leading).toNat) := by ring
    _ = 4 * (one * 10 ^ leading.toNat) * 10 ^ (-exponent).toNat := by
      rw [powers]
      ring
    _ ≤ 4 * (units * 10 ^ (-leading).toNat) * 10 ^ (-exponent).toNat :=
      Nat.mul_le_mul_right _ (Nat.mul_le_mul_left 4 first)
    _ = 4 * units * 10 ^ (-exponent).toNat * 10 ^ (-leading).toNat := by ring

/-- A step that is small beside the magnitude is small beside its interval. -/
theorem readsBack_down {units step scale : Nat} (pos : 0 < scale) (stepPos : 0 < step)
    (small : step * 10 ^ 17 ≤ 4 * units * scale) :
    readsBack units (4 * units * scale / step * step) scale = true := by
  have split : step * (4 * units * scale / step) + 4 * units * scale % step = 4 * units * scale :=
    Nat.div_add_mod _ _
  have rest := Nat.mod_lt (4 * units * scale) stepPos
  have within := lt_spacing units
  have bit := (margins_bounds units).1
  have above : 0 < (margins units).2 := Nat.mul_pos (by decide) (Nat.two_pow_pos _)
  have wide : step ≤ (margins units).1 * scale := by
    have := Nat.mul_lt_mul_of_pos_right within pos
    have := Nat.mul_le_mul_right scale bit
    linarith
  have high := Nat.mul_pos above pos
  rw [Nat.mul_comm _ step]
  generalize step * (4 * units * scale / step) = down at *
  unfold readsBack
  simp only [Nat.sub_mul, Nat.add_mul]
  split
  · rw [Bool.and_eq_true, decide_eq_true_eq, decide_eq_true_eq]
    exact ⟨by omega, by omega⟩
  · rw [Bool.and_eq_true, decide_eq_true_eq, decide_eq_true_eq]
    exact ⟨by omega, by omega⟩

theorem onGrid?_isSome_of_down {tie : Tie} {units : Nat} {exponent : Int}
    (down : readsBack units
      (4 * units * 10 ^ (-exponent).toNat / (4 * unit * 10 ^ exponent.toNat) *
        (4 * unit * 10 ^ exponent.toNat)) (10 ^ (-exponent).toNat) = true) :
    (onGrid? tie units exponent).isSome := by
  unfold onGrid?
  simp only [Nat.pow_eq, down, Bool.true_and]
  split
  · split
    · rfl
    · split
      · rfl
      · cases tie <;> rfl
  · rfl

/-- Eighteen digits always suffice. -/
theorem onGrid?_isSome {tie : Tie} {units : Nat} (pos : 0 < units) :
    (onGrid? tie units (leadingExponent units - 17)).isSome :=
  onGrid?_isSome_of_down (readsBack_down (Nat.pow_pos (by decide))
    (Nat.mul_pos (Nat.mul_pos (by decide) unit_pos) (Nat.pow_pos (by decide)))
    (step_le_target pos rfl))

namespace Decimal

def nearest (d : Decimal) : Nat :=
  roundUnits (d.digits * (unit * 10 ^ d.exponent.toNat)) (10 ^ (-d.exponent).toNat)

/-- A zero at the end of the digits counts as much as one more in the power of ten. -/
theorem nearest_times_ten (m : Nat) (exponent : Int) :
    (mk (m * 10) exponent).nearest = (mk m (exponent + 1)).nearest := by
  unfold nearest
  generalize unit = one
  rcases lt_or_ge exponent 0 with negative | positive
  · have up : (-exponent).toNat = (-(exponent + 1)).toNat + 1 := by omega
    have zero : (exponent + 1).toNat = 0 := by omega
    have zero' : exponent.toNat = 0 := by omega
    simp only [up, zero, zero', Nat.pow_succ]
    rw [Nat.mul_right_comm, roundUnits_mul_mul _ _ (by decide)]
  · have up : (exponent + 1).toNat = exponent.toNat + 1 := by omega
    have zero : (-(exponent + 1)).toNat = 0 := by omega
    have zero' : (-exponent).toNat = 0 := by omega
    simp only [up, zero, zero', Nat.pow_succ]
    congr 1
    ring

theorem nearest_times_pow (m k : Nat) (exponent : Int) :
    (mk (m * 10 ^ k) exponent).nearest = (mk m (exponent + k)).nearest := by
  induction k generalizing exponent with
  | zero => simp
  | succ k ih =>
    rw [Nat.pow_succ, ← Nat.mul_assoc, nearest_times_ten, ih]
    congr 2
    omega

/-- Only zeros are removed from the end of the digits. -/
theorem normalize_eq (tries : Nat) (d : Decimal) :
    ∃ k : Nat, (d.normalize tries).exponent = d.exponent + k ∧
      (d.normalize tries).digits * 10 ^ k = d.digits := by
  induction tries generalizing d with
  | zero => exact ⟨0, by simp [normalize], by simp [normalize]⟩
  | succ tries ih =>
    rw [normalize]
    split
    case isFalse => exact ⟨0, by simp, by simp⟩
    case isTrue whole =>
      obtain ⟨k, exponents, digits⟩ := ih ⟨d.digits / 10, d.exponent + 1⟩
      refine ⟨k + 1, ?_, ?_⟩
      · rw [exponents]
        push_cast
        omega
      · rw [Nat.pow_succ, ← Nat.mul_assoc, digits]
        exact Nat.div_mul_cancel (Nat.dvd_of_mod_eq_zero whole.2)

theorem nearest_normalize (tries : Nat) (d : Decimal) : (d.normalize tries).nearest = d.nearest := by
  obtain ⟨k, exponents, digits⟩ := normalize_eq tries d
  calc (d.normalize tries).nearest
      = (mk (d.normalize tries).digits (d.exponent + k)).nearest := by rw [← exponents]
    _ = (mk ((d.normalize tries).digits * 10 ^ k) d.exponent).nearest :=
      (nearest_times_pow _ _ _).symm
    _ = d.nearest := by rw [digits]

theorem nearest_of_onGrid? {tie : Tie} {units q : Nat} {exponent : Int}
    (fits : spacing units ∣ units) (h : onGrid? tie units exponent = some q) :
    (Decimal.mk q exponent).nearest = units := by
  have rounded := roundUnits_of_readsBack fits (Nat.pow_pos (by decide)) (readsBack_of_onGrid? h)
  simp only [Nat.pow_eq] at rounded
  unfold nearest
  generalize unit = one at *
  have same : q * (4 * one * 10 ^ exponent.toNat) = q * (one * 10 ^ exponent.toNat) * 4 := by
    ring
  rwa [same, Nat.mul_comm 4, roundUnits_mul_mul _ _ (by decide)] at rounded

end Decimal

/-- The shortest decimal of a magnitude is found on the first grid that has one. -/
theorem exists_shortest {tie : Tie} {units : Nat} {least : Int}
    (found : (onGrid? tie units least).isSome) (inside : least ≤ leadingExponent units)
    (reached : leadingExponent units < least + 18) :
    ∃ exponent q, least ≤ exponent ∧ onGrid? tie units exponent = some q ∧
      shortest tie units = (Decimal.mk q exponent).normalize 20 :=
  exists_shortestFrom found (by omega) (by omega)

/-- A magnitude is the nearest one to its shortest decimal. -/
theorem nearest_shortest {tie : Tie} {units : Nat} (pos : 0 < units) (fits : spacing units ∣ units) :
    (shortest tie units).nearest = units := by
  have last : (onGrid? tie units (leadingExponent units - 17)).isSome := onGrid?_isSome pos
  obtain ⟨exponent, q, -, found, short⟩ := exists_shortest last (by omega) (by omega)
  rw [short, Decimal.nearest_normalize, Decimal.nearest_of_onGrid? fits found]

theorem digits_shortest_pos {tie : Tie} {units : Nat} (pos : 0 < units)
    (fits : spacing units ∣ units) : 0 < (shortest tie units).digits := by
  have last : (onGrid? tie units (leadingExponent units - 17)).isSome := onGrid?_isSome pos
  obtain ⟨exponent, q, -, found, short⟩ := exists_shortest last (by omega) (by omega)
  obtain ⟨k, -, digits⟩ := Decimal.normalize_eq 20 ⟨q, exponent⟩
  have positive : 0 < q := pos_of_onGrid? pos fits found
  have value : (shortest tie units).digits * 10 ^ k = q := short ▸ digits
  exact Nat.pos_of_mul_pos_right (value.symm ▸ positive)

/-! ### Whole numbers -/

theorem spacing_shift_le {n : Nat} (small : n < 2 ^ 53) (k : Nat) :
    spacing (n * 2 ^ k) ≤ 2 ^ k := by
  have bit := Nat.two_pow_pos k
  rcases Nat.eq_zero_or_pos n with rfl | pos
  · rw [Nat.zero_mul]
    exact bit
  · have top : (n * 2 ^ k).log2 < 53 + k := by
      rw [Nat.log2_lt (Nat.ne_of_gt (Nat.mul_pos pos bit)), Nat.pow_add]
      exact Nat.mul_lt_mul_of_pos_right small bit
    exact Nat.pow_le_pow_right (by decide) (by omega)

theorem unit_eq : unit = 2 ^ 1074 := by decide +kernel

theorem spacing_dvd_pow {m : Nat} (few : m ≤ 2 ^ 53) (k : Nat) :
    spacing (m * 2 ^ k) ∣ m * 2 ^ k := spacing_dvd_shift k few

theorem spacing_dvd_whole {m : Nat} (few : m ≤ 2 ^ 53) : spacing (m * unit) ∣ m * unit := by
  rw [unit_eq]
  exact spacing_dvd_pow few 1074

/-- A whole decimal in the interval of a whole number is that number. -/
theorem eq_of_readsBack {m n : Nat} (small : n < 2 ^ 53)
    (h : readsBack (n * unit) (m * (4 * unit)) 1 = true) : m = n := by
  obtain ⟨low, high, -⟩ := bounds_of_readsBack h
  have wide : spacing (n * unit) ≤ unit := by
    rw [unit_eq]
    exact spacing_shift_le small 1074
  have one := unit_pos
  obtain ⟨-, below, above⟩ := margins_bounds (n * unit)
  generalize unit = one' at *
  have beyond : n < m + 1 := by
    refine Nat.lt_of_mul_lt_mul_right (a := one') ?_
    linarith
  have under : m < n + 1 := by
    refine Nat.lt_of_mul_lt_mul_right (a := one') ?_
    linarith
  omega

theorem onGrid?_whole (tie : Tie) (n : Nat) : (onGrid? tie (n * unit) 0).isSome := by
  have step : 0 < 4 * unit := Nat.mul_pos (by decide) unit_pos
  refine onGrid?_isSome_of_down ?_
  simp only [neg_zero, Int.toNat_zero, Nat.pow_zero, Nat.mul_one]
  have target : 4 * (n * unit) = n * (4 * unit) := Nat.mul_left_comm 4 n unit
  rw [target, Nat.mul_div_cancel n step, ← target, ← Nat.mul_one (4 * (n * unit))]
  exact readsBack_self (n * unit) Nat.one_pos

/-- The shortest decimal of a whole number is that number, written without a fraction. -/
theorem shortest_whole {tie : Tie} {n : Nat} (pos : 0 < n) (small : n < 2 ^ 53) :
    ∃ k : Nat, (shortest tie (n * unit)).exponent = k ∧
      (shortest tie (n * unit)).digits * 10 ^ k = n := by
  have one := unit_pos
  have found : (onGrid? tie (n * unit) 0).isSome := onGrid?_whole tie n
  have leading : leadingExponent (n * unit) = leadingPower n := by
    rw [leadingExponent, if_pos (Nat.le_mul_of_pos_left unit pos), Nat.mul_div_cancel n one]
  have short : leadingPower n < 18 := by
    have power := leadingPower_le pos
    by_contra far
    have := Nat.pow_le_pow_right (show 0 < 10 by decide) (show 18 ≤ leadingPower n by omega)
    omega
  obtain ⟨exponent, q, whole, grid, same⟩ := exists_shortest found (by omega) (by omega)
  obtain ⟨k, exponents, digits⟩ := Decimal.normalize_eq 20 ⟨q, exponent⟩
  rw [← same] at exponents digits
  have value : q * 10 ^ exponent.toNat = n := by
    have reads := readsBack_of_onGrid? grid
    have zero : (-exponent).toNat = 0 := by omega
    simp only [Nat.pow_eq, zero, Nat.pow_zero] at reads
    refine eq_of_readsBack small ?_
    rwa [Nat.mul_assoc, Nat.mul_comm (10 ^ exponent.toNat)]
  refine ⟨exponent.toNat + k, ?_, ?_⟩
  · rw [exponents]
    push_cast
    omega
  · rw [Nat.add_comm, Nat.pow_add, ← Nat.mul_assoc, digits]
    exact value

end PluginFlow.Number
