import PluginFlow.Json.Document
import PluginFlow.Json.Numeral
import PluginFlow.Proofs.Digits
import PluginFlow.Proofs.ShortestDecimal
import PluginFlow.Proofs.Utf8

/-!
Numerals and their texts. Every numeral is read back from its text, and a number is written as the
numeral of its shortest decimal.
-/

namespace PluginFlow

namespace Json

open Text.Utf8 (encodeChar)

def Digits (ds : List Char) : Prop := ds ≠ [] ∧ ∀ c ∈ ds, c.isDigit

/-- What can stand behind a number: nothing that would go on with it. -/
def Follows (rest : Bytes) : Prop :=
  ∀ b ∈ rest.head?, isDigit b = false ∧ is '.' b = false ∧ is 'e' b = false ∧ is 'E' b = false

theorem encodeChar_of_isDigit {c : Char} (h : c.isDigit) : encodeChar c = [c.toNat.toUInt8] := by
  have bounds := Text.bounds_of_isDigit h
  rw [encodeChar]
  exact if_pos (by omega)

theorem isDigit_toUInt8 {c : Char} (h : c.isDigit) : isDigit c.toNat.toUInt8 = true := by
  have bounds := Text.bounds_of_isDigit h
  rw [isDigit, Text.Utf8.toNat_toUInt8 (by omega), Bool.and_eq_true, decide_eq_true_eq,
    decide_eq_true_eq]
  exact bounds

/-- A digit is no other mark. -/
theorem is_of_isDigit {b : UInt8} (digit : isDigit b = true) {c : Char}
    (other : c.toNat < 48 ∨ 57 < c.toNat) : is c b = false := by
  have bounds : 48 ≤ b.toNat ∧ b.toNat ≤ 57 := by simpa [isDigit] using digit
  rw [is, beq_eq_false_iff_ne]
  omega

theorem isSpace_of_isDigit {b : UInt8} (digit : isDigit b = true) : isSpace b = false := by
  simp [isSpace, is_of_isDigit digit]

theorem takeDigits_append {ds : List Char} {rest : Bytes} (digits : ∀ c ∈ ds, c.isDigit)
    (stops : ∀ b ∈ rest.head?, isDigit b = false) :
    takeDigits (ds.flatMap encodeChar ++ rest) = (ds, rest) := by
  unfold takeDigits
  induction ds with
  | nil =>
    cases rest with
    | nil => rfl
    | cons b bs => simp [stops b rfl]
  | cons c cs ih =>
    rw [List.forall_mem_cons] at digits
    have low : c.toNat < 256 := by
      have bounds := Text.bounds_of_isDigit digits.1
      omega
    have tail := ih digits.2
    rw [Prod.mk.injEq] at tail
    simp only [List.flatMap_cons, encodeChar_of_isDigit digits.1, List.cons_append,
      List.nil_append, List.takeWhile_cons, List.dropWhile_cons, isDigit_toUInt8 digits.1, if_true,
      List.map_cons, tail, Text.Utf8.toNat_toUInt8 low, Char.ofNat_toNat]

def powerChars : Option (Bool × List Char) → List Char
  | none => []
  | some (down, ds) => 'e' :: (if down then '-' else '+') :: ds

def fractionChars : Option (List Char) → List Char
  | none => []
  | some ds => '.' :: ds

def Numeral.chars (n : Numeral) : List Char :=
  (if n.negative then ['-'] else []) ++
    (n.whole ++ (fractionChars n.fraction ++ powerChars n.power))

/-- A numeral as a text can hold it: with digits in each of its parts, and without a zero in front
of other digits of the whole part. -/
structure Numeral.WellFormed (n : Numeral) : Prop where
  whole : Digits n.whole
  leading : n.whole.head? = some '0' → n.whole = ['0']
  fraction : ∀ ds ∈ n.fraction, Digits ds
  power : ∀ p ∈ n.power, Digits p.2

theorem takePower_chars {negative : Bool} {whole : List Char} {fraction : Option (List Char)}
    {power : Option (Bool × List Char)} {rest : Bytes} (digits : ∀ p ∈ power, Digits p.2)
    (follows : Follows rest) :
    takePower negative whole fraction ((powerChars power).flatMap encodeChar ++ rest) =
      (.number ⟨negative, whole, fraction, power⟩, rest) := by
  cases power with
  | none =>
    cases rest with
    | nil => rfl
    | cons b bs =>
      obtain ⟨-, -, small, capital⟩ := follows b rfl
      simp [powerChars, takePower, small, capital]
  | some p =>
    obtain ⟨down, ds⟩ := p
    obtain ⟨nonempty, all⟩ := digits _ rfl
    have taken := takeDigits_append all fun b hb => (follows b hb).1
    have more : ds.isEmpty = false := List.isEmpty_eq_false_iff.2 nonempty
    have mark : encodeChar 'e' = [101] ∧ is 'e' 101 = true := ⟨rfl, rfl⟩
    have minus : encodeChar '-' = [45] ∧ is '-' 45 = true := ⟨rfl, rfl⟩
    have plus : encodeChar '+' = [43] ∧ is '-' 43 = false ∧ is '+' 43 = true := ⟨rfl, rfl, rfl⟩
    cases down with
    | true => simp [powerChars, takePower, mark, minus, taken, more]
    | false => simp [powerChars, takePower, mark, plus, taken, more]

/-- A power of ten does not go on with the digits or the point before it. -/
theorem stops_power (power : Option (Bool × List Char)) {rest : Bytes} (follows : Follows rest) :
    ∀ b ∈ ((powerChars power).flatMap encodeChar ++ rest).head?,
      isDigit b = false ∧ is '.' b = false := by
  cases power with
  | none => exact fun b hb => ⟨(follows b hb).1, (follows b hb).2.1⟩
  | some p =>
    have mark : encodeChar 'e' = [101] := rfl
    intro b hb
    rw [powerChars, List.flatMap_cons, mark] at hb
    cases hb
    exact ⟨rfl, rfl⟩

/-- A fraction does not go on with the digits before it. -/
theorem stops_fraction (fraction : Option (List Char)) (power : Option (Bool × List Char))
    {rest : Bytes} (follows : Follows rest) :
    ∀ b ∈ ((fractionChars fraction ++ powerChars power).flatMap encodeChar ++ rest).head?,
      isDigit b = false := by
  cases fraction with
  | none => exact fun b hb => (stops_power power follows b hb).1
  | some ds =>
    have point : encodeChar '.' = [46] := rfl
    intro b hb
    rw [fractionChars, List.cons_append, List.flatMap_cons, point] at hb
    cases hb
    rfl

theorem takeFraction_chars {negative : Bool} {whole : List Char} {fraction : Option (List Char)}
    {power : Option (Bool × List Char)} {rest : Bytes} (fractional : ∀ ds ∈ fraction, Digits ds)
    (digits : ∀ p ∈ power, Digits p.2) (follows : Follows rest) :
    takeFraction negative whole
        ((fractionChars fraction ++ powerChars power).flatMap encodeChar ++ rest) =
      (.number ⟨negative, whole, fraction, power⟩, rest) := by
  have powered := fun fraction => @takePower_chars negative whole fraction power rest digits follows
  have stops := stops_power power follows
  cases fraction with
  | none =>
    have same := powered none
    rw [fractionChars, List.nil_append]
    cases h : (powerChars power).flatMap encodeChar ++ rest with
    | nil =>
      rw [h] at same
      exact same
    | cons b bs =>
      rw [h] at same stops
      rw [← same, takeFraction, (stops b rfl).2]
      rfl
  | some ds =>
    obtain ⟨nonempty, all⟩ := fractional ds rfl
    have taken := takeDigits_append all fun b hb => (stops b hb).1
    have more : ds.isEmpty = false := List.isEmpty_eq_false_iff.2 nonempty
    have point : encodeChar '.' = [46] ∧ is '.' 46 = true := ⟨rfl, rfl⟩
    simp only [fractionChars, List.flatMap_append, List.flatMap_cons, point, List.cons_append,
      List.nil_append, List.append_assoc, takeFraction, taken, more, powered, if_true]
    rfl

theorem takeNumber_chars {n : Numeral} (h : n.WellFormed) {rest : Bytes} (follows : Follows rest) :
    takeNumber n.negative
        ((n.whole ++ (fractionChars n.fraction ++ powerChars n.power)).flatMap encodeChar ++ rest) =
      (.number n, rest) := by
  have taken := takeDigits_append h.whole.2 (stops_fraction n.fraction n.power follows)
  have fractioned := @takeFraction_chars n.negative n.whole n.fraction n.power rest h.fraction
    h.power follows
  rw [List.flatMap_append, List.append_assoc, takeNumber, taken]
  simp only
  split
  case h_1 none => exact absurd none h.whole.1
  case h_2 c cs zero =>
    have alone := h.leading (by rw [zero]; rfl)
    rw [zero] at alone
    cases alone
  case h_3 => exact fractioned

theorem takeValue_digit {b : UInt8} (digit : isDigit b = true) (fuel : Nat) (bs : Bytes) :
    takeValue (fuel + 1) (b :: bs) = takeNumber false (b :: bs) := by
  have tight : skipSpace (b :: bs) = b :: bs := by
    simp [skipSpace, isSpace_of_isDigit digit]
  rw [takeValue, tight]
  simp [is_of_isDigit digit, digit]

theorem takeValue_minus (fuel : Nat) (bs : Bytes) :
    takeValue (fuel + 1) (45 :: bs) = takeNumber true bs := by
  rw [takeValue]
  rfl

/-- A numeral is read back from its characters. -/
theorem takeValue_numeral {n : Numeral} (h : n.WellFormed) (fuel : Nat) {rest : Bytes}
    (follows : Follows rest) :
    takeValue (fuel + 1) (n.chars.flatMap encodeChar ++ rest) = (.number n, rest) := by
  have number := takeNumber_chars h follows
  unfold Numeral.chars
  cases sign : n.negative with
  | true =>
    have minus : encodeChar '-' = [45] := rfl
    rw [sign] at number
    simp only [if_true, List.cons_append, List.nil_append, List.flatMap_cons, minus]
    rw [takeValue_minus, number]
  | false =>
    rw [sign] at number
    simp only [Bool.false_eq_true, if_false, List.nil_append]
    obtain ⟨c, cs, front⟩ := List.exists_cons_of_ne_nil h.whole.1
    have digit : c.isDigit := h.whole.2 c (front ▸ List.mem_cons_self)
    rw [front, List.cons_append, List.flatMap_cons, encodeChar_of_isDigit digit] at number ⊢
    rw [← number]
    exact takeValue_digit (isDigit_toUInt8 digit) fuel _

end Json

namespace Number

open Json (Digits Numeral fractionChars powerChars)

/-- The digits of a decimal with zeros in front, as many as its point needs. -/
def Decimal.padded (d : Decimal) : List Char :=
  List.replicate ((-d.exponent).toNat + 1 - (natDigits d.digits).length) '0' ++ natDigits d.digits

def Decimal.numeral (negative : Bool) (d : Decimal) : Numeral :=
  if -5 ≤ d.leading ∧ d.leading ≤ 15 then
    if 0 ≤ d.exponent then
      ⟨negative, natDigits d.digits ++ List.replicate d.exponent.toNat '0', some ['0'], none⟩
    else
      ⟨negative, d.padded.take (d.padded.length - (-d.exponent).toNat),
        some (d.padded.drop (d.padded.length - (-d.exponent).toNat)), none⟩
  else
    ⟨negative, (natDigits d.digits).take 1,
      if (natDigits d.digits).length = 1 then none else some ((natDigits d.digits).drop 1),
      some (decide (d.leading < 0), natDigits d.leading.natAbs)⟩

theorem chars_numeral (negative : Bool) (d : Decimal) :
    (d.numeral negative).chars =
      (if negative then ['-'] else []) ++ Layout.json.decimalText d := by
  unfold Decimal.numeral Layout.decimalText Numeral.chars
  simp only [Layout.json]
  split
  case isTrue =>
    unfold Decimal.positional
    split
    case isTrue => simp [fractionChars, powerChars]
    case isFalse => simp [fractionChars, powerChars, Decimal.padded]
  case isFalse =>
    unfold Decimal.scientific
    split
    case isTrue one => simp [fractionChars, powerChars, one]
    case isFalse more => simp [fractionChars, powerChars, more]

theorem Decimal.length_padded (d : Decimal) : (-d.exponent).toNat < d.padded.length := by
  rw [padded, List.length_append, List.length_replicate]
  omega

theorem Decimal.isDigit_of_mem_padded {d : Decimal} {c : Char} (h : c ∈ d.padded) : c.isDigit := by
  rcases List.mem_append.1 h with zero | digit
  · rw [List.eq_of_mem_replicate zero]
    decide
  · exact isDigit_of_mem_natDigits digit

theorem digits_natDigits (n : Nat) : Digits (natDigits n) :=
  ⟨natDigits_ne_nil n, fun _ => isDigit_of_mem_natDigits⟩

/-- The whole part of padded digits has no zero in front of other digits. -/
theorem Decimal.leading_padded {d : Decimal} (pos : 0 < d.digits)
    (h : (d.padded.take (d.padded.length - (-d.exponent).toNat)).head? = some '0') :
    d.padded.take (d.padded.length - (-d.exponent).toNat) = ['0'] := by
  have long := d.length_padded
  rcases Nat.lt_or_ge (-d.exponent).toNat (natDigits d.digits).length with some | none
  · have bare : d.padded = natDigits d.digits := by
      rw [padded, Nat.sub_eq_zero_of_le some, List.replicate_zero, List.nil_append]
    rw [bare, List.head?_take, if_neg (by rw [← bare]; omega)] at h
    exact absurd h (head?_natDigits pos)
  · have one : d.padded.length - (-d.exponent).toNat = 1 := by
      rw [padded, List.length_append, List.length_replicate]
      omega
    have front : d.padded = '0' :: d.padded.tail := by
      have more : (-d.exponent).toNat + 1 - (natDigits d.digits).length =
          (-d.exponent).toNat - (natDigits d.digits).length + 1 := by omega
      rw [padded, more, List.replicate_succ]
      rfl
    rw [one, front]
    rfl

/-- Digits and zeros behind them, with a zero for the fraction. -/
theorem wellFormed_whole {n k : Nat} (zero : n = 0 → k = 0) (negative : Bool) :
    Numeral.WellFormed ⟨negative, natDigits n ++ List.replicate k '0', some ['0'], none⟩ where
  whole := by
    refine ⟨List.append_ne_nil_of_left_ne_nil (natDigits_ne_nil n) _, fun c hc => ?_⟩
    rcases List.mem_append.1 hc with digit | zeros
    · exact isDigit_of_mem_natDigits digit
    · rw [List.eq_of_mem_replicate zeros]
      decide
  leading first := by
    rcases Nat.eq_zero_or_pos n with none | pos
    · rw [none, zero none]
      rfl
    · obtain ⟨c, cs, front⟩ := List.exists_cons_of_ne_nil (natDigits_ne_nil n)
      have head := head?_natDigits pos
      simp only [front, List.cons_append] at head first
      exact absurd first head
  fraction := by
    rintro ds ⟨⟩
    exact ⟨by simp, by simp⟩
  power := by simp

/-- Padded digits with the point among them. -/
theorem wellFormed_padded {d : Decimal} (pos : 0 < d.digits) (behind : d.exponent < 0)
    (negative : Bool) :
    Numeral.WellFormed ⟨negative, d.padded.take (d.padded.length - (-d.exponent).toNat),
      some (d.padded.drop (d.padded.length - (-d.exponent).toNat)), none⟩ where
  whole := by
    have long := d.length_padded
    refine ⟨?_, fun c hc => Decimal.isDigit_of_mem_padded (List.mem_of_mem_take hc)⟩
    rw [← List.length_pos_iff, List.length_take]
    omega
  leading := Decimal.leading_padded pos
  fraction := by
    have long := d.length_padded
    rintro ds ⟨⟩
    refine ⟨?_, fun c hc => Decimal.isDigit_of_mem_padded (List.mem_of_mem_drop hc)⟩
    rw [← List.length_pos_iff, List.length_drop]
    omega
  power := by simp

/-- One digit in front of the point, and a power of ten. -/
theorem wellFormed_power (n k : Nat) (negative down : Bool) :
    Numeral.WellFormed ⟨negative, (natDigits n).take 1,
      if (natDigits n).length = 1 then none else some ((natDigits n).drop 1),
      some (down, natDigits k)⟩ := by
  have digits := digits_natDigits n
  obtain ⟨c, cs, front⟩ := List.exists_cons_of_ne_nil digits.1
  refine ⟨⟨by simp [front], fun c hc => digits.2 c (List.mem_of_mem_take hc)⟩, ?_, ?_, ?_⟩
  · intro first
    rw [front] at first ⊢
    cases first
    rfl
  · intro ds hds
    split at hds
    case isTrue => cases hds
    case isFalse more =>
      cases hds
      refine ⟨?_, fun c hc => digits.2 c (List.mem_of_mem_drop hc)⟩
      rw [front] at more ⊢
      rw [List.drop_one, List.tail_cons, ← List.length_pos_iff]
      rw [List.length_cons] at more
      omega
  · rintro p ⟨⟩
    exact digits_natDigits _

theorem wellFormed_numeral {d : Decimal} (zero : d.digits = 0 → d.exponent = 0) (negative : Bool) :
    (d.numeral negative).WellFormed := by
  unfold Decimal.numeral
  split
  case isTrue =>
    split
    case isTrue => exact wellFormed_whole (fun none => by rw [zero none]; rfl) negative
    case isFalse small =>
      refine wellFormed_padded (Nat.pos_of_ne_zero fun none => ?_) (by omega) negative
      exact small (le_of_eq (zero none).symm)
  case isFalse => exact wellFormed_power _ _ negative _

def decimal (units : Nat) : Decimal := if units = 0 then ⟨0, 0⟩ else shortest .toEven units

theorem wellFormed_decimal {units : Nat} (fits : Representable units) (negative : Bool) :
    ((decimal units).numeral negative).WellFormed := by
  apply wellFormed_numeral
  unfold decimal
  split
  case isTrue => exact fun _ => rfl
  case isFalse more =>
    intro zero
    have positive := @digits_shortest_pos .toEven units (Nat.pos_of_ne_zero more) fits.2
    omega

theorem write_json (negative : Bool) (units : Nat) (fits : Representable units) :
    (Number.finite negative units fits).write .json =
      String.ofList ((decimal units).numeral negative).chars := by
  rw [chars_numeral, decimal]
  unfold write
  by_cases zero : units = 0
  · simp only [if_pos zero]
  · simp only [if_neg zero]
    rfl

end Number
end PluginFlow
