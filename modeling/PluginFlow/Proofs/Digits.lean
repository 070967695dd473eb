import Mathlib.Data.List.Induction
import Mathlib.Tactic.Ring
import PluginFlow.Number.Layout
import PluginFlow.Number.Numeral

/-!
Decimal digits and their value.
-/

namespace PluginFlow

theorem Text.isDigit_eq (c : Char) : isDigit c = c.isDigit := by
  simp [isDigit, Char.isDigit, Char.le_def]

theorem Text.bounds_of_isDigit {c : Char} (h : c.isDigit) : 48 ≤ c.toNat ∧ c.toNat ≤ 57 := by
  rw [Char.isDigit, Bool.and_eq_true, decide_eq_true_eq, decide_eq_true_eq] at h
  exact h

namespace Number

theorem isDigit_of_mem_natDigits {n : Nat} {c : Char} (h : c ∈ natDigits n) : c.isDigit :=
  Nat.isDigit_of_mem_toDigits (by decide) (by decide) h

theorem natDigits_ne_nil (n : Nat) : natDigits n ≠ [] := Nat.toDigits_ne_nil

theorem digitsValue_concat (ds : List Char) (c : Char) :
    digitsValue (ds ++ [c]) = 10 * digitsValue ds + Text.digitValue c := by
  rw [digitsValue, List.foldl_append]
  rfl

theorem digitsValue_append (front back : List Char) :
    digitsValue (front ++ back) = digitsValue front * 10 ^ back.length + digitsValue back := by
  induction back using List.reverseRecOn with
  | nil => simp [digitsValue]
  | append_singleton back c ih =>
    rw [← List.append_assoc, digitsValue_concat, digitsValue_concat, ih, List.length_append,
      List.length_singleton, Nat.pow_succ]
    ring

theorem digitsValue_replicate (k : Nat) : digitsValue (List.replicate k '0') = 0 := by
  induction k with
  | zero => rfl
  | succ k ih =>
    rw [List.replicate_succ', digitsValue_concat, ih]
    rfl

/-- The digits of a number end in that of its ones. -/
theorem natDigits_of_ten_le {n : Nat} (h : 10 ≤ n) :
    natDigits n = natDigits (n / 10) ++ [(n % 10).digitChar] :=
  Nat.toDigits_of_base_le (by decide) h

/-- Digits stand for the number they were written for. -/
theorem digitsValue_natDigits (n : Nat) : digitsValue (natDigits n) = n := by
  have digit : ∀ d < 10, Text.digitValue d.digitChar = d := by decide
  induction n using Nat.strongRecOn with
  | ind n ih =>
    rcases Nat.lt_or_ge n 10 with low | high
    · rw [natDigits, Nat.toDigits_of_lt_base low]
      exact (Nat.zero_add _).trans (digit n low)
    · rw [natDigits_of_ten_le high, digitsValue_concat, ih (n / 10) (by omega),
        digit (n % 10) (by omega)]
      omega

/-- No number but zero starts with a zero. -/
theorem head?_natDigits {n : Nat} (pos : 0 < n) : (natDigits n).head? ≠ some '0' := by
  have digit : ∀ d < 10, 0 < d → d.digitChar ≠ '0' := by decide
  induction n using Nat.strongRecOn with
  | ind n ih =>
    rcases Nat.lt_or_ge n 10 with low | high
    · rw [natDigits, Nat.toDigits_of_lt_base low]
      intro h
      exact digit n low pos (Option.some.inj h)
    · have front := ih (n / 10) (by omega) (by omega)
      obtain ⟨c, cs, more⟩ := List.exists_cons_of_ne_nil (natDigits_ne_nil (n / 10))
      rw [more] at front
      rw [natDigits_of_ten_le high, more]
      exact front

end Number
end PluginFlow
