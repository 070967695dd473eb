import PluginFlow.Proofs.NumeralValue
import PluginFlow.Value

/-!
Integers as numbers, and words as integers. An integer of at most fifty-three bits is held exactly.
A longer one may be rounded, but it keeps its sign and never comes down to a shorter one, so rounding
moves no integer past a short one. A word of sixty-four bits is read with a sign.
-/

namespace PluginFlow

namespace Number

theorem div_le_nearest (n d : Nat) : n / d ≤ nearest n d := by
  simp only [nearest]
  split
  · exact Nat.le_refl _
  · split <;> omega

/-- Rounding does not go below a power of two. -/
theorem two_pow_le_roundUnits {n d k : Nat} (low : 2 ^ k ≤ n / d) : 2 ^ k ≤ roundUnits n d := by
  have grid : spacing (n / d) ∣ 2 ^ (n / d).log2 := by
    rw [spacing, Nat.pow_eq]
    exact Nat.pow_dvd_pow 2 (Nat.sub_le _ _)
  have parts : n / (d * spacing (n / d)) = n / d / spacing (n / d) :=
    (Nat.div_div_eq_div_mul _ _ _).symm
  have bottom := div_le_nearest n (d * spacing (n / d))
  rw [parts] at bottom
  rw [roundUnits]
  generalize n / d = q at *
  have pos : q ≠ 0 := Nat.ne_of_gt (Nat.lt_of_lt_of_le (Nat.two_pow_pos k) low)
  calc
    2 ^ k ≤ 2 ^ q.log2 := Nat.pow_le_pow_right (by decide) ((Nat.le_log2 pos).2 low)
    _ = 2 ^ q.log2 / spacing q * spacing q := (Nat.div_mul_cancel grid).symm
    _ ≤ q / spacing q * spacing q :=
      Nat.mul_le_mul_right _ (Nat.div_le_div_right (Nat.log2_self_le pos))
    _ ≤ nearest n (d * spacing q) * spacing q := Nat.mul_le_mul_right _ bottom

theorem signed_natAbs (i : Int) : signed (i < 0) i.natAbs = i := by
  unfold signed
  split
  · rename_i negative
    have := of_decide_eq_true negative
    omega
  · rename_i negative
    have := of_decide_eq_false (Bool.eq_false_iff.2 negative)
    omega

/-- A short integer is held exactly. -/
theorem ofInt_of_short {i : Int} (short : i.natAbs ≤ 2 ^ 53) :
    ∃ fits, ofInt i = .finite (i < 0) (i.natAbs * unit) fits := by
  have finite : 2 ^ 53 * unit < ceiling := by decide +kernel
  have fits : Representable (i.natAbs * unit) :=
    ⟨Nat.lt_of_le_of_lt (Nat.mul_le_mul_right _ short) finite, spacing_dvd_whole short⟩
  exact ⟨fits, ofRatio_self _ fits⟩

/-- A long integer is infinite or held with a long magnitude. -/
theorem ofInt_of_long {i : Int} (long : 2 ^ 53 ≤ i.natAbs) :
    ofInt i = .infinite (i < 0) ∨
      ∃ units fits, ofInt i = .finite (i < 0) units fits ∧ 2 ^ 53 * unit ≤ units := by
  unfold ofInt ofRatio
  split
  · rename_i finite
    refine .inr ⟨_, ⟨finite, spacing_dvd_roundUnits _ _⟩, rfl, ?_⟩
    have power : 2 ^ 53 * unit = 2 ^ 1127 := by decide +kernel
    have size : 2 ^ 53 * unit ≤ i.natAbs * unit := Nat.mul_le_mul_right _ long
    rw [power] at size ⊢
    exact two_pow_le_roundUnits (by rwa [Nat.div_one])
  · exact .inl rfl

/-- No other integer is held as a short one is. -/
theorem ofInt_eq_ofInt_iff {i j : Int} (short : j.natAbs < 2 ^ 53) : ofInt i = ofInt j ↔ i = j := by
  refine ⟨fun same => ?_, congrArg ofInt⟩
  obtain ⟨_, exact'⟩ := ofInt_of_short short.le
  rw [exact'] at same
  rcases Nat.lt_or_ge i.natAbs (2 ^ 53) with short' | long
  · obtain ⟨_, exact''⟩ := ofInt_of_short short'.le
    rw [exact'', Number.finite.injEq] at same
    rw [← signed_natAbs i, ← signed_natAbs j, same.1,
      Nat.eq_of_mul_eq_mul_right unit_pos same.2]
  · rcases ofInt_of_long long with infinite | ⟨units, _, finite, large⟩
    · rw [infinite] at same
      exact absurd same (by simp only [reduceCtorEq, not_false_eq_true])
    · rw [finite, Number.finite.injEq] at same
      have := Nat.mul_lt_mul_of_pos_right short unit_pos
      omega

/-- A place for an integer on a scale: its own if it is short, and otherwise past those of the
shorter ones. -/
def Places (scale i place : Int) : Prop :=
  i.natAbs ≤ 2 ^ 53 ∧ place = i * scale ∨
    2 ^ 53 ≤ i ∧ 2 ^ 53 * scale ≤ place ∨
    i ≤ -2 ^ 53 ∧ place ≤ -2 ^ 53 * scale

theorem Places.eq_of_short {scale j place : Int} (h : Places scale j place)
    (short : j.natAbs < 2 ^ 53) : place = j * scale := by
  rcases h with ⟨-, here⟩ | ⟨far, -⟩ | ⟨far, -⟩
  · exact here
  · omega
  · omega

/-- An integer is not placed past a short one that it is not past. -/
theorem Places.lt_iff {scale i j place : Int} (h : Places scale i place) (pos : 0 < scale)
    (short : j.natAbs < 2 ^ 53) :
    (place < j * scale ↔ i < j) ∧ (j * scale < place ↔ j < i) := by
  have below : j * scale < 2 ^ 53 * scale := Int.mul_lt_mul_of_pos_right (by omega) pos
  have above : -2 ^ 53 * scale < j * scale := Int.mul_lt_mul_of_pos_right (by omega) pos
  rcases h with ⟨-, rfl⟩ | ⟨far, past⟩ | ⟨far, past⟩
  · exact ⟨Int.mul_lt_mul_right pos, Int.mul_lt_mul_right pos⟩
  · exact ⟨iff_of_false (by omega) (by omega), iff_of_true (by omega) (by omega)⟩
  · exact ⟨iff_of_true (by omega) (by omega), iff_of_false (by omega) (by omega)⟩

theorem places_signed {scale magnitude : Nat} {i : Int}
    (h : i.natAbs ≤ 2 ^ 53 ∧ magnitude = i.natAbs * scale ∨
      2 ^ 53 ≤ i.natAbs ∧ 2 ^ 53 * scale ≤ magnitude) :
    Places scale i (signed (i < 0) magnitude) := by
  unfold signed
  split
  · rename_i negative
    have negative := of_decide_eq_true negative
    rcases h with ⟨short, rfl⟩ | ⟨long, past⟩
    · refine .inl ⟨short, ?_⟩
      rw [Nat.cast_mul, Int.ofNat_natAbs_of_nonpos negative.le, Int.neg_mul, Int.neg_neg]
    · refine .inr (.inr ⟨by omega, ?_⟩)
      rw [Int.neg_mul]
      exact Int.neg_le_neg (by exact_mod_cast past)
  · rename_i positive
    have positive := not_lt.1 (mt decide_eq_true positive)
    rcases h with ⟨short, rfl⟩ | ⟨long, past⟩
    · refine .inl ⟨short, ?_⟩
      rw [Nat.cast_mul, Int.natAbs_of_nonneg positive]
    · exact .inr (.inl ⟨by omega, by exact_mod_cast past⟩)

theorem exists_position?_ofInt (i : Int) :
    ∃ place, (ofInt i).position? = some place ∧ Places unit i place := by
  rcases Nat.le_total i.natAbs (2 ^ 53) with short | long
  · obtain ⟨_, held⟩ := ofInt_of_short short
    exact ⟨_, by rw [held, position?], places_signed (.inl ⟨short, rfl⟩)⟩
  · rcases ofInt_of_long long with held | ⟨units, _, held, large⟩
    · have large : 2 ^ 53 * unit ≤ ceiling := by decide +kernel
      exact ⟨_, by rw [held, position?], places_signed (.inr ⟨long, large⟩)⟩
    · exact ⟨_, by rw [held, position?], places_signed (.inr ⟨long, large⟩)⟩

theorem less_of_position? {a b : Number} {x y : Int} (ha : a.position? = some x)
    (hb : b.position? = some y) : a.less b = decide (x < y) := by
  simp only [less, related, ha, hb]

/-- Rounding does not move an integer past a short one. -/
theorem less_ofInt {i j : Int} (short : j.natAbs < 2 ^ 53) :
    (ofInt i).less (ofInt j) = decide (i < j) ∧ (ofInt j).less (ofInt i) = decide (j < i) := by
  obtain ⟨p, hp, place⟩ := exists_position?_ofInt i
  obtain ⟨q, hq, place'⟩ := exists_position?_ofInt j
  obtain rfl := place'.eq_of_short short
  obtain ⟨below, above⟩ := place.lt_iff (Int.natCast_pos.2 unit_pos) short
  rw [less_of_position? hp hq, less_of_position? hq hp, decide_eq_decide, decide_eq_decide]
  exact ⟨below, above⟩

/-- Rounding keeps the sign of an integer. -/
theorem less_zero_ofInt (i : Int) : (ofInt i).less .zero = decide (i < 0) := by
  have zero : ofInt 0 = .zero := by decide +kernel
  rw [← zero]
  exact (less_ofInt (by decide)).1

end Number

namespace Value

theorem ofInt_eq_ofInt_iff {i j : Int} (short : j.natAbs < 2 ^ 53) : ofInt i = ofInt j ↔ i = j := by
  rw [ofInt, ofInt, number.injEq, Number.ofInt_eq_ofInt_iff short]

/-- A short integer is read as itself. -/
theorem asInteger?_ofInt {i : Int} (short : i.natAbs ≤ 2 ^ 53) : (ofInt i).asInteger? = some i := by
  obtain ⟨_, held⟩ := Number.ofInt_of_short short
  have whole : (Number.ofInt i).truncate? = some i := by
    rw [held, Number.truncate?, Nat.mul_div_cancel _ Number.unit_pos, Number.signed_natAbs]
  have within : Number.clampInt64 i = i := by
    unfold Number.clampInt64 Number.minInt64 Number.maxInt64
    omega
  rw [ofInt, asInteger?, Number.toInt64?, whole, Option.map_some, within]

end Value

/-- A word that is read with a sign is negative in the upper half of its range. -/
theorem toInt_toInt64 (x : UInt64) :
    x.toInt64.toInt = if x.toNat < 2 ^ 63 then (x.toNat : Int) else x.toNat - 2 ^ 64 := by
  have signed : x.toInt64.toInt = x.toBitVec.toInt := rfl
  have size : x.toBitVec.toNat = x.toNat := rfl
  rw [signed, BitVec.toInt_eq_toNat_cond, size]
  split <;> split <;> omega

theorem toInt_toInt64_eq_neg_one {x : UInt64} :
    x.toInt64.toInt = -1 ↔ x = UInt64.ofNat (2 ^ 64 - 1) := by
  have low := x.toNat_lt
  have top : (UInt64.ofNat (2 ^ 64 - 1)).toNat = 2 ^ 64 - 1 := by decide
  rw [toInt_toInt64, ← UInt64.toNat_inj, top]
  split <;> omega

end PluginFlow
