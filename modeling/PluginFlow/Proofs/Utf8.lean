import PluginFlow.Text.Utf8

/-!
Reading UTF-8 gives back every text that was written in it.
-/

namespace PluginFlow.Text.Utf8

theorem toNat_toUInt8 {n : Nat} (h : n < 256) : n.toUInt8.toNat = n := by
  rw [Nat.toUInt8, UInt8.toNat_ofNat', Nat.mod_eq_of_lt h]

theorem decodeFrom_cons (p : Option Pending) (b : UInt8) (rest : List UInt8) :
    decodeFrom p (b :: rest) = (step p b).found ++ decodeFrom (step p b).pending rest := by
  cases p <;> rfl

/-- A byte that continues a character of which more bytes are owed. -/
theorem step_owed {owed low high value n : Nat} (least : low ≤ 0x80 + n % 64)
    (greatest : 0x80 + n % 64 ≤ high) :
    step (some ⟨owed + 2, low, high, value⟩) (0x80 + n % 64).toUInt8 =
      ⟨[], some ⟨owed + 1, 0x80, 0xBF, value * 64 + n % 64⟩⟩ := by
  have byte : (0x80 + n % 64).toUInt8.toNat = 0x80 + n % 64 := toNat_toUInt8 (by omega)
  have more : ¬ owed + 2 ≤ 1 := by omega
  have part : (0x80 + n % 64) % 64 = n % 64 := by omega
  simp only [step, byte, least, greatest, and_self, if_true, if_neg more, part]
  rfl

/-- The last byte of a character. -/
theorem step_last {low high value n : Nat} (least : low ≤ 0x80 + n % 64)
    (greatest : 0x80 + n % 64 ≤ high) :
    step (some ⟨1, low, high, value⟩) (0x80 + n % 64).toUInt8 =
      ⟨[some (Char.ofNat (value * 64 + n % 64))], none⟩ := by
  have byte : (0x80 + n % 64).toUInt8.toNat = 0x80 + n % 64 := toNat_toUInt8 (by omega)
  have part : (0x80 + n % 64) % 64 = n % 64 := by omega
  simp only [step, byte, least, greatest, and_self, if_true, Nat.le_refl, part]

/-- The first of two bytes. -/
theorem first_two {k : Nat} (least : 2 ≤ k) (greatest : k < 32) :
    first (0xC0 + k).toUInt8 = ⟨[], some ⟨1, 0x80, 0xBF, k⟩⟩ := by
  have byte : (0xC0 + k).toUInt8.toNat = 0xC0 + k := toNat_toUInt8 (by omega)
  have value : (0xC0 + k) % 32 = k := by omega
  simp only [first, byte, value]
  rw [if_neg (by omega), if_pos (by omega)]

/-- The first of three bytes. What may come second keeps out overlong forms and surrogates. -/
theorem first_three {k : Nat} (h : k < 16) :
    first (0xE0 + k).toUInt8 =
      ⟨[], some ⟨2, if k = 0 then 0xA0 else 0x80, if k = 13 then 0x9F else 0xBF, k⟩⟩ := by
  have byte : (0xE0 + k).toUInt8.toNat = 0xE0 + k := toNat_toUInt8 (by omega)
  have value : (0xE0 + k) % 16 = k := by omega
  simp only [first, byte, value]
  rw [if_neg (by omega), if_neg (by omega)]
  by_cases least : k = 0
  · subst least
    rfl
  by_cases surrogates : k = 13
  · subst surrogates
    rfl
  · rw [if_neg (by omega), if_neg (by omega), if_pos (by omega), if_neg least, if_neg surrogates]

/-- The first of four bytes. What may come second keeps out overlong forms and what lies past the
last character. -/
theorem first_four {k : Nat} (h : k < 5) :
    first (0xF0 + k).toUInt8 =
      ⟨[], some ⟨3, if k = 0 then 0x90 else 0x80, if k = 4 then 0x8F else 0xBF, k⟩⟩ := by
  have cases : k = 0 ∨ k = 1 ∨ k = 2 ∨ k = 3 ∨ k = 4 := by omega
  rcases cases with rfl | rfl | rfl | rfl | rfl
  all_goals rfl

theorem decodeFrom_encodeChar (c : Char) (rest : List UInt8) :
    decodeFrom none (encodeChar c ++ rest) = some c :: decodeFrom none rest := by
  have valid : c.toNat < 0xD800 ∨ 0xDFFF < c.toNat ∧ c.toNat < 0x110000 := c.valid
  unfold encodeChar
  simp only
  split
  case isTrue h =>
    have byte : c.toNat.toUInt8.toNat = c.toNat := toNat_toUInt8 (by omega)
    simp [decodeFrom_cons, step, first, byte, h]
  split
  case isTrue h =>
    simp only [List.cons_append, List.nil_append, decodeFrom_cons]
    rw [step, first_two (by omega) (by omega), step_last (by omega) (by omega)]
    have value : c.toNat / 64 * 64 + c.toNat % 64 = c.toNat := by omega
    rw [value, Char.ofNat_toNat]
    rfl
  split
  case isTrue h =>
    simp only [List.cons_append, List.nil_append, decodeFrom_cons]
    rw [step, first_three (by omega), step_owed (by split <;> omega) (by split <;> omega),
      step_last (by omega) (by omega)]
    have value : (c.toNat / 4096 * 64 + c.toNat / 64 % 64) * 64 + c.toNat % 64 = c.toNat := by omega
    rw [value, Char.ofNat_toNat]
    rfl
  case isFalse h =>
    simp only [List.cons_append, List.nil_append, decodeFrom_cons]
    rw [step, first_four (by omega), step_owed (by split <;> omega) (by split <;> omega),
      step_owed (by omega) (by omega), step_last (by omega) (by omega)]
    have value : ((c.toNat / 262144 * 64 + c.toNat / 4096 % 64) * 64 + c.toNat / 64 % 64) * 64 +
        c.toNat % 64 = c.toNat := by omega
    rw [value, Char.ofNat_toNat]
    rfl

theorem pieces_encode (s : String) : pieces (encode s) = s.toList.map some := by
  unfold pieces encode
  induction s.toList with
  | nil => rfl
  | cons c cs ih => rw [List.flatMap_cons, decodeFrom_encodeChar, ih, List.map_cons]

theorem valid?_map_some (cs : List Char) : valid? (cs.map some) = some cs := by
  induction cs with
  | nil => rfl
  | cons c cs ih => simp [valid?, ih]

theorem decode?_encode (s : String) : decode? (encode s) = some s := by
  rw [decode?, pieces_encode, valid?_map_some, Option.map_some, String.ofList_toList]

theorem encode_append (s t : String) : encode (s ++ t) = encode s ++ encode t := by
  rw [encode, encode, encode, String.toList_append, List.flatMap_append]

end PluginFlow.Text.Utf8
