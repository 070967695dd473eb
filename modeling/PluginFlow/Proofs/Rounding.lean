import Mathlib.Tactic.Ring
import Mathlib.Tactic.Linarith
import PluginFlow.Number.Shortest

/-!
Rounding. A magnitude is the nearest one to all that lies in its interval, and the shortest decimal
lies there.
-/

namespace PluginFlow.Number

theorem nearest_eq {n d k : Nat} (pos : 0 < d) (low : 2 * k * d ≤ 2 * n + d)
    (high : 2 * n ≤ (2 * k + 1) * d)
    (tie : 2 * k * d = 2 * n + d ∨ 2 * n = (2 * k + 1) * d → k % 2 = 0) : nearest n d = k := by
  have split : d * (n / d) + n % d = n := Nat.div_add_mod n d
  have rest : n % d < d := Nat.mod_lt n pos
  have above : n / d < k + 1 := by
    rw [Nat.div_lt_iff_lt_mul pos]
    nlinarith
  have below : k ≤ n / d + 1 := by
    by_contra far
    have : (n / d + 2) * d ≤ k * d := Nat.mul_le_mul_right d (by omega)
    nlinarith
  unfold nearest
  generalize n / d = q at *
  generalize n % d = r at *
  subst split
  simp only
  rcases Nat.lt_or_ge q k with down | up
  · obtain rfl : k = q + 1 := by omega
    have past : d ≤ 2 * r := by linarith
    rw [if_neg (by omega)]
    split
    · rfl
    · have even : (q + 1) % 2 = 0 := tie (.inl (by linarith))
      omega
  · obtain rfl : k = q := by omega
    have under : 2 * r ≤ d := by linarith
    split
    · rfl
    · rw [if_neg (by omega)]
      have even : k % 2 = 0 := tie (.inr (by linarith))
      omega

theorem nearest_mul_mul (n d : Nat) {c : Nat} (pos : 0 < c) :
    nearest (n * c) (d * c) = nearest n d := by
  have same : ∀ x y : Nat, 2 * (x * c) < y * c ↔ 2 * x < y := by
    intro x y
    rw [← Nat.mul_assoc, Nat.mul_lt_mul_right pos]
  have other : ∀ x y : Nat, y * c < 2 * (x * c) ↔ y < 2 * x := by
    intro x y
    rw [← Nat.mul_assoc, Nat.mul_lt_mul_right pos]
  simp only [nearest, Nat.mul_div_mul_right _ _ pos, Nat.mul_mod_mul_right, same, other]

theorem roundUnits_mul_mul (n d : Nat) {c : Nat} (pos : 0 < c) :
    roundUnits (n * c) (d * c) = roundUnits n d := by
  simp only [roundUnits, Nat.mul_div_mul_right _ _ pos, Nat.mul_right_comm d c,
    nearest_mul_mul _ _ pos]

theorem spacing_eq {units j : Nat} (low : 2 ^ 52 * 2 ^ j ≤ units)
    (high : units < 2 ^ 53 * 2 ^ j) : spacing units = 2 ^ j := by
  have pos : units ≠ 0 :=
    Nat.ne_of_gt (Nat.lt_of_lt_of_le (Nat.mul_pos (by decide) (Nat.two_pow_pos j)) low)
  have top : units.log2 = 52 + j := by
    refine (Nat.log2_eq_iff pos).2 ⟨by rwa [Nat.pow_add], ?_⟩
    rwa [Nat.add_right_comm, Nat.pow_add]
  rw [spacing, top, Nat.add_sub_cancel_left, Nat.pow_eq]

theorem spacing_eq_one {units : Nat} (h : units < 2 ^ 53) : spacing units = 1 := by
  have low : units.log2 ≤ 52 := by
    rcases Nat.eq_zero_or_pos units with rfl | pos
    · decide
    · exact Nat.le_of_lt_succ ((Nat.log2_lt (Nat.ne_of_gt pos)).2 h)
  rw [spacing, Nat.sub_eq_zero_of_le low, Nat.pow_eq, Nat.pow_zero]

theorem roundUnits_eq {n d s k : Nat} (pos : 0 < d * s) (spaced : spacing (n / d) = s)
    (low : 2 * k * (d * s) ≤ 2 * n + d * s) (high : 2 * n ≤ (2 * k + 1) * (d * s))
    (tie : 2 * k * (d * s) = 2 * n + d * s ∨ 2 * n = (2 * k + 1) * (d * s) → k % 2 = 0) :
    roundUnits n d = k * s := by
  simp only [roundUnits, spaced, nearest_eq pos low high tie]

/-- An interval reaches half a bit up, and half a bit or a quarter of one down. -/
theorem margins_bounds (units : Nat) :
    spacing units ≤ (margins units).1 ∧ (margins units).1 ≤ 2 * spacing units ∧
      (margins units).2 = 2 * spacing units := by
  rw [margins]
  split
  · omega
  · omega

/-- The ends of an interval, which belong to it only when the last bit of the magnitude is even. -/
theorem bounds_of_readsBack {units scaled scale : Nat}
    (h : readsBack units scaled scale = true) :
    4 * units * scale ≤ scaled + (margins units).1 * scale ∧
      scaled ≤ (4 * units + (margins units).2) * scale ∧
      (4 * units * scale = scaled + (margins units).1 * scale ∨
        scaled = (4 * units + (margins units).2) * scale → units / spacing units % 2 = 0) := by
  unfold readsBack at h
  simp only [Nat.sub_mul] at h
  split at h
  case isTrue even =>
    rw [Bool.and_eq_true, decide_eq_true_eq, decide_eq_true_eq] at h
    exact ⟨by omega, h.2, fun _ => even⟩
  case isFalse odd =>
    rw [Bool.and_eq_true, decide_eq_true_eq, decide_eq_true_eq] at h
    exact ⟨by omega, by omega, by omega⟩

/-- What lies in the interval of a small magnitude is rounded to it. -/
theorem roundUnits_of_small {units scaled scale : Nat} (small : units < 2 ^ 53) (pos : 0 < scale)
    (h : readsBack units scaled scale = true) : roundUnits scaled (4 * scale) = units := by
  obtain ⟨low, high, tie⟩ := bounds_of_readsBack h
  have one : spacing units = 1 := spacing_eq_one small
  simp only [margins, one, ne_eq, not_true_eq_false, and_false, if_false, Nat.mul_one,
    Nat.div_one] at low high tie
  have under : scaled / (4 * scale) < units + 1 := by
    rw [Nat.div_lt_iff_lt_mul (by omega)]
    linarith
  have spaced : spacing (scaled / (4 * scale)) = 1 := spacing_eq_one (by omega)
  have rounded : roundUnits scaled (4 * scale) = units * 1 := by
    refine roundUnits_eq (by omega) spaced (by linarith) (by linarith) fun ends => tie ?_
    exact ends.imp (fun h => by linarith) (fun h => by linarith)
  rw [rounded, Nat.mul_one]

section Large

variable {k j scaled scale : Nat}

theorem spacing_large (least : 2 ^ 52 ≤ k) (most : k < 2 ^ 53) :
    spacing (k * 2 ^ (j + 1)) = 2 ^ (j + 1) :=
  spacing_eq (Nat.mul_le_mul_right _ least) (Nat.mul_lt_mul_of_pos_right most (Nat.two_pow_pos _))

theorem roundUnits_of_upper (least : 2 ^ 52 ≤ k) (most : k < 2 ^ 53) (pos : 0 < scale)
    (h : readsBack (k * 2 ^ (j + 1)) scaled scale = true)
    (upper : 2 ^ 52 * 2 ^ (j + 1) ≤ scaled / (4 * scale)) :
    roundUnits scaled (4 * scale) = k * 2 ^ (j + 1) := by
  have wide := @spacing_large k j least most
  have bit : 0 < 2 ^ (j + 1) := Nat.two_pow_pos _
  obtain ⟨low, high, tie⟩ := bounds_of_readsBack h
  obtain ⟨-, below, above⟩ := margins_bounds (k * 2 ^ (j + 1))
  rw [wide] at below above
  rw [wide, Nat.mul_div_cancel k bit] at tie
  rw [above] at high tie
  have under : scaled / (4 * scale) < 2 ^ 53 * 2 ^ (j + 1) := by
    rw [Nat.div_lt_iff_lt_mul (by omega)]
    have room := Nat.mul_le_mul_right (2 ^ (j + 1)) (Nat.succ_le_of_lt most)
    nlinarith
  have inside := Nat.mul_le_mul_right scale below
  refine roundUnits_eq (Nat.mul_pos (by omega) bit) (spacing_eq upper under) (by linarith)
    (by linarith) fun ends => tie ?_
  rcases ends with lowEnd | highEnd
  · left
    linarith
  · right
    linarith

/-- Half of the last bit below a power of two the interval ends earlier, and what lies there is
rounded to whole multiples of half that bit. -/
theorem roundUnits_of_lower (least : 2 ^ 52 ≤ k) (most : k < 2 ^ 53) (pos : 0 < scale)
    (h : readsBack (k * 2 ^ (j + 1)) scaled scale = true)
    (lower : scaled / (4 * scale) < 2 ^ 52 * 2 ^ (j + 1)) :
    roundUnits scaled (4 * scale) = k * 2 ^ (j + 1) := by
  have wide := @spacing_large k j least most
  have apart : 2 ^ (j + 1) = 2 * 2 ^ j := by rw [Nat.pow_succ, Nat.mul_comm]
  have bit : 0 < 2 ^ j := Nat.two_pow_pos j
  obtain ⟨low, -, -⟩ := bounds_of_readsBack h
  rw [Nat.div_lt_iff_lt_mul (by omega)] at lower
  obtain rfl : k = 2 ^ 52 := by
    obtain ⟨-, below, -⟩ := margins_bounds (k * 2 ^ (j + 1))
    rw [wide] at below
    by_contra other
    have next := Nat.mul_le_mul_right (2 ^ (j + 1)) (show 2 ^ 52 + 1 ≤ k by omega)
    nlinarith
  have power : 2 ^ 52 * 2 ^ (j + 1) = 2 ^ (53 + j) := by
    rw [← Nat.pow_add]
    congr 1
    omega
  have short : (margins (2 ^ 52 * 2 ^ (j + 1))).1 = 2 ^ (j + 1) := by
    rw [margins, wide, power, Nat.log2_two_pow]
    exact if_pos ⟨Nat.pow_eq.symm, by omega⟩
  rw [short, apart] at low
  rw [apart] at lower ⊢
  have beyond : 2 ^ 52 * 2 ^ j ≤ scaled / (4 * scale) := by
    rw [Nat.le_div_iff_mul_le (by omega)]
    nlinarith
  have under : scaled / (4 * scale) < 2 ^ 53 * 2 ^ j := by
    rw [Nat.div_lt_iff_lt_mul (by omega)]
    linarith
  have rounded : roundUnits scaled (4 * scale) = 2 ^ 53 * 2 ^ j :=
    roundUnits_eq (Nat.mul_pos (by omega) bit) (spacing_eq beyond under) (by linarith)
      (by linarith) fun _ => by decide
  rw [rounded]
  omega

/-- What lies in the interval of a large magnitude is rounded to it. -/
theorem roundUnits_of_large (least : 2 ^ 52 ≤ k) (most : k < 2 ^ 53) (pos : 0 < scale)
    (h : readsBack (k * 2 ^ (j + 1)) scaled scale = true) :
    roundUnits scaled (4 * scale) = k * 2 ^ (j + 1) := by
  rcases Nat.lt_or_ge (scaled / (4 * scale)) (2 ^ 52 * 2 ^ (j + 1)) with lower | upper
  · exact roundUnits_of_lower least most pos h lower
  · exact roundUnits_of_upper least most pos h upper

end Large

/-- What lies in the interval of a magnitude is rounded to it. -/
theorem roundUnits_of_readsBack {units scaled scale : Nat} (fits : spacing units ∣ units)
    (pos : 0 < scale) (h : readsBack units scaled scale = true) :
    roundUnits scaled (4 * scale) = units := by
  rcases Nat.lt_or_ge units (2 ^ 53) with small | large
  · exact roundUnits_of_small small pos h
  · have top : 53 ≤ units.log2 := (Nat.le_log2 (by omega)).2 large
    obtain ⟨j, hj⟩ := Nat.exists_eq_add_of_le top
    have least : 2 ^ 52 * 2 ^ (j + 1) ≤ units := by
      rw [← Nat.pow_add, show 52 + (j + 1) = units.log2 by omega]
      exact Nat.log2_self_le (by omega)
    have most : units < 2 ^ 53 * 2 ^ (j + 1) := by
      rw [← Nat.pow_add, show 53 + (j + 1) = units.log2 + 1 by omega]
      exact Nat.lt_log2_self
    rw [spacing_eq least most] at fits
    obtain ⟨k, rfl⟩ := dvd_iff_exists_eq_mul_left.1 fits
    exact roundUnits_of_large (Nat.le_of_mul_le_mul_right least (Nat.two_pow_pos _))
      (Nat.lt_of_mul_lt_mul_right most) pos h

end PluginFlow.Number
