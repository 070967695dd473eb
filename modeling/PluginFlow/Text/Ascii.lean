/-!
ASCII letters and digits, and searches by whole prefixes and factors of a text.
Letters outside ASCII have no case here.
-/

namespace PluginFlow.Text

def lowerChar (c : Char) : Char :=
  if 'A' ≤ c ∧ c ≤ 'Z' then Char.ofNat (c.toNat + 32) else c

def lower (s : String) : String :=
  String.ofList (s.toList.map lowerChar)

def equalsIgnoringCase (s t : String) : Bool :=
  lower s == lower t

def isDigit (c : Char) : Bool :=
  '0' ≤ c && c ≤ '9'

def digitValue (c : Char) : Nat :=
  c.toNat - '0'.toNat

def hexValue? (c : Char) : Option Nat :=
  if isDigit c then some (digitValue c)
  else if 'a' ≤ c ∧ c ≤ 'f' then some (c.toNat - 'a'.toNat + 10)
  else if 'A' ≤ c ∧ c ≤ 'F' then some (c.toNat - 'A'.toNat + 10)
  else none

def hexDigits : List Char :=
  ['0', '1', '2', '3', '4', '5', '6', '7', '8', '9', 'a', 'b', 'c', 'd', 'e', 'f']

def hexDigit (n : Nat) : Char :=
  hexDigits.getD n '0'

def hexByte (b : UInt8) : List Char :=
  [hexDigit (b.toNat / 16), hexDigit (b.toNat % 16)]

def dropPrefix? {α : Type} [BEq α] : List α → List α → Option (List α)
  | [], rest => some rest
  | _ :: _, [] => none
  | x :: p, y :: rest => if x == y then dropPrefix? p rest else none

def dropPrefixText? (p s : String) : Option String :=
  (dropPrefix? p.toList s.toList).map String.ofList

def occursIn {α : Type} [BEq α] (p : List α) : List α → Bool
  | [] => (dropPrefix? p []).isSome
  | x :: rest => (dropPrefix? p (x :: rest)).isSome || occursIn p rest

def contains (s p : String) : Bool :=
  occursIn p.toList s.toList

theorem dropPrefix?_eq_some {p s rest : List Char} :
    dropPrefix? p s = some rest ↔ s = p ++ rest := by
  induction p generalizing s with
  | nil => simp [dropPrefix?]
  | cons x p ih =>
    cases s with
    | nil => simp [dropPrefix?]
    | cons y s =>
      by_cases h : x = y
      · subst h
        simp [dropPrefix?, ih]
      · simp [dropPrefix?, h, Ne.symm h]

/-- A text contains `p` exactly when it is `p` with something before and after. -/
theorem occursIn_iff {p s : List Char} :
    occursIn p s = true ↔ ∃ before after, s = before ++ p ++ after := by
  induction s with
  | nil =>
    simp only [occursIn, Option.isSome_iff_exists, dropPrefix?_eq_some]
    constructor
    · rintro ⟨after, h⟩
      exact ⟨[], after, by simpa using h⟩
    · rintro ⟨before, after, h⟩
      refine ⟨[], ?_⟩
      simp only [List.nil_eq, List.append_eq_nil_iff] at h ⊢
      simp [h.1.2]
  | cons c s ih =>
    simp only [occursIn, Bool.or_eq_true, ih, Option.isSome_iff_exists, dropPrefix?_eq_some]
    constructor
    · rintro (⟨after, h⟩ | ⟨before, after, h⟩)
      · exact ⟨[], after, by simpa using h⟩
      · exact ⟨c :: before, after, by simp [h]⟩
    · rintro ⟨before, after, h⟩
      cases before with
      | nil => exact .inl ⟨after, by simpa using h⟩
      | cons d before =>
        simp only [List.cons_append, List.cons.injEq] at h
        exact .inr ⟨before, after, h.2⟩

end PluginFlow.Text
