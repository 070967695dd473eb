import Mathlib.Data.List.TakeWhile
import PluginFlow.Proofs.JsonText
import PluginFlow.Proofs.TemplateCut
import PluginFlow.Proofs.WholeNumbers

/-!
Texts of numbers as decimals. Reading a decimal gives the number nearest to it, near or far, so a
finite number is read back from its text; only the sign of a zero is lost.
-/

namespace PluginFlow

open Json (Digits Numeral fractionChars powerChars)

namespace Number

/-! ### Far decimals -/

theorem two_mul_lt_ten_pow (m : Nat) : 2 * m < 10 ^ (m.log2 + 1) := by
  have size : m < 2 ^ (m.log2 + 1) := Nat.lt_log2_self
  have power : 2 ^ m.log2 ≤ 10 ^ m.log2 := Nat.pow_le_pow_left (by decide) _
  rw [Nat.pow_succ] at size ⊢
  omega

theorem ten_pow_le {m : Nat} (pos : m ≠ 0) : 10 ^ (m.log2 / 4) ≤ m :=
  calc 10 ^ (m.log2 / 4)
      ≤ 16 ^ (m.log2 / 4) := Nat.pow_le_pow_left (by decide) _
    _ = 2 ^ (4 * (m.log2 / 4)) := (Nat.pow_mul 2 4 _).symm
    _ ≤ 2 ^ m.log2 := Nat.pow_le_pow_right (by decide) (Nat.mul_div_le _ _)
    _ ≤ m := Nat.log2_self_le pos

/-- Less than half a unit is nearest to zero. -/
theorem roundUnits_eq_zero {n d : Nat} (small : 2 * n < d) : roundUnits n d = 0 := by
  have zero : n / d = 0 := Nat.div_eq_of_lt (by omega)
  have one : spacing 0 = 1 := spacing_eq_one (by decide)
  have rest : n % d = n := Nat.mod_eq_of_lt (by omega)
  simp only [roundUnits, nearest, zero, one, rest, Nat.mul_one, if_pos small]

namespace Decimal

variable {m : Nat} {e : Int}

/-- A decimal far below the least magnitude is nearest to zero. -/
theorem nearest_of_tiny {k : Nat} (least : unit ≤ 10 ^ k)
    (tiny : m = 0 ∨ e + (m.log2 : Int) < -k) : (mk m e).nearest = 0 := by
  refine roundUnits_eq_zero ?_
  rcases tiny with rfl | below
  · rw [Nat.zero_mul, Nat.mul_zero]
    exact Nat.pow_pos (by decide)
  · have none : e.toNat = 0 := by omega
    calc 2 * (m * (unit * 10 ^ e.toNat))
        = 2 * m * unit := by rw [none, Nat.pow_zero, Nat.mul_one, Nat.mul_assoc]
      _ < 10 ^ (m.log2 + 1) * unit :=
        Nat.mul_lt_mul_of_pos_right (two_mul_lt_ten_pow m) unit_pos
      _ ≤ 10 ^ (m.log2 + 1) * 10 ^ k := Nat.mul_le_mul_left _ least
      _ = 10 ^ (m.log2 + 1 + k) := (Nat.pow_add ..).symm
      _ ≤ 10 ^ (-e).toNat := Nat.pow_le_pow_right (by decide) (by omega)

/-- A decimal far above the finite magnitudes is not nearest to one of them. -/
theorem two_pow_le_nearest {p k : Nat} (most : 2 ^ p ≤ unit * 10 ^ k) (pos : m ≠ 0)
    (far : k < e + (m.log2 : Int) / 4) : 2 ^ p ≤ (mk m e).nearest := by
  have scale : 0 < 10 ^ (-e).toNat := Nat.pow_pos (by decide)
  unfold nearest
  generalize unit = one at *
  apply two_pow_le_roundUnits
  rw [Nat.le_div_iff_mul_le scale]
  calc 2 ^ p * 10 ^ (-e).toNat
      ≤ one * 10 ^ k * 10 ^ (-e).toNat := Nat.mul_le_mul_right _ most
    _ = 10 ^ (k + (-e).toNat) * one := by
      rw [Nat.pow_add]
      ring
    _ ≤ 10 ^ (m.log2 / 4 + e.toNat) * one :=
      Nat.mul_le_mul_right _ (Nat.pow_le_pow_right (by decide) (by omega))
    _ = 10 ^ (m.log2 / 4) * (one * 10 ^ e.toNat) := by
      rw [Nat.pow_add]
      ring
    _ ≤ m * (one * 10 ^ e.toNat) := Nat.mul_le_mul_right _ (ten_pow_le pos)

end Decimal

theorem ceiling_eq : ceiling = 2 ^ 2098 := by decide +kernel

theorem two_pow_le_ten_pow : 2 ^ 2098 ≤ unit * 10 ^ 400 := by decide +kernel

/-- A decimal is read as the number nearest to it. -/
theorem ofDecimal_eq (negative : Bool) (m : Nat) (e : Int) :
    ofDecimal negative m e = ofRatio negative (Decimal.mk m e).nearest 1 := by
  have stays : roundUnits (Decimal.mk m e).nearest 1 = (Decimal.mk m e).nearest :=
    roundUnits_self (spacing_dvd_roundUnits _ _)
  unfold ofDecimal
  simp only
  split
  case isTrue tiny => rw [Decimal.nearest_of_tiny unit_le_ten_pow tiny]
  case isFalse near =>
    rw [not_or] at near
    split
    case isTrue far =>
      have past := Decimal.two_pow_le_nearest two_pow_le_ten_pow near.1 far
      rw [← ceiling_eq, ← stays] at past
      rw [ofRatio, dif_neg (Nat.not_lt.2 past)]
    case isFalse =>
      have same : roundUnits (m * Nat.pow 10 e.toNat * unit) (Nat.pow 10 (-e).toNat) =
          roundUnits (Decimal.mk m e).nearest 1 := by
        rw [stays, Decimal.nearest, Nat.mul_assoc, Nat.mul_comm _ unit]
        rfl
      simp only [ofRatio, same]

/-! ### Numerals without a power of ten -/

theorem splitSign_digits (negative : Bool) {ds : List Char} (digits : Digits ds)
    (rest : List Char) :
    splitSign ((if negative then ['-'] else []) ++ (ds ++ rest)) = (negative, ds ++ rest) := by
  cases negative with
  | true => rfl
  | false =>
    obtain ⟨c, cs, rfl⟩ := List.exists_cons_of_ne_nil digits.1
    have digit : c.isDigit := digits.2 c List.mem_cons_self
    simp only [Bool.false_eq_true, if_false, List.nil_append, List.cons_append]
    unfold splitSign
    split
    case h_1 same =>
      cases same
      exact absurd digit (by decide)
    case h_2 same =>
      cases same
      exact absurd digit (by decide)
    case h_3 => rfl

/-- A numeral is read as its digits with the power of ten of the last of them. -/
theorem decimal?_chars {n : Numeral} (h : n.WellFormed) (bare : n.power = none) :
    decimal? n.chars = some (ofDecimal n.negative n.digits n.exponent) := by
  obtain ⟨negative, whole, fraction, power⟩ := n
  cases bare
  have digits : ∀ {ds : List Char}, Digits ds → ∀ c ∈ ds, Text.isDigit c = true :=
    fun all c hc => (Text.isDigit_eq c).trans (all.2 c hc)
  have more : whole.isEmpty = false := List.isEmpty_eq_false_iff.2 h.whole.1
  have stops : ∀ c ∈ (fractionChars fraction).head?, Text.isDigit c = false := by
    cases fraction with
    | none => rintro c ⟨⟩
    | some ds =>
      rintro c ⟨⟩
      rfl
  rw [Numeral.chars, powerChars, List.append_nil, decimal?, splitSign_digits negative h.whole]
  simp only [Text.takeWhile_append_eq (digits h.whole) stops,
    Text.dropWhile_append_eq (digits h.whole) stops, Numeral.digits, Numeral.exponent,
    Numeral.marked]
  cases fraction with
  | none =>
    simp only [fractionChars, more, exponentPart?]
    rfl
  | some ds =>
    have all := digits (h.fraction ds rfl)
    have front : ds.takeWhile Text.isDigit = ds := List.takeWhile_eq_self_iff.2 all
    have back : ds.dropWhile Text.isDigit = [] := List.dropWhile_eq_nil_iff.2 all
    simp only [fractionChars, front, back, more, exponentPart?]
    rfl

namespace Decimal

def plainNumeral (negative : Bool) (d : Decimal) : Numeral :=
  if 0 ≤ d.exponent then
    ⟨negative, natDigits d.digits ++ List.replicate d.exponent.toNat '0', none, none⟩
  else
    ⟨negative, d.padded.take (d.padded.length - (-d.exponent).toNat),
      some (d.padded.drop (d.padded.length - (-d.exponent).toNat)), none⟩

theorem chars_plainNumeral (negative : Bool) (d : Decimal) :
    (d.plainNumeral negative).chars =
      (if negative then ['-'] else []) ++ Layout.plain.decimalText d := by
  unfold plainNumeral Layout.decimalText Numeral.chars
  simp only [Layout.plain]
  unfold positional
  split
  case isTrue => simp [fractionChars, powerChars]
  case isFalse => simp [fractionChars, powerChars, padded]

theorem power_plainNumeral (negative : Bool) (d : Decimal) :
    (d.plainNumeral negative).power = none := by
  unfold plainNumeral
  split <;> rfl

theorem negative_plainNumeral (negative : Bool) (d : Decimal) :
    (d.plainNumeral negative).negative = negative := by
  unfold plainNumeral
  split <;> rfl

theorem wellFormed_plainNumeral {d : Decimal} (zero : d.digits = 0 → d.exponent = 0)
    (negative : Bool) : (d.plainNumeral negative).WellFormed := by
  unfold plainNumeral
  split
  case isTrue whole =>
    have marked := wellFormed_whole (fun none => by rw [zero none]; rfl) negative
      (n := d.digits) (k := d.exponent.toNat)
    exact ⟨marked.whole, marked.leading, nofun, nofun⟩
  case isFalse small =>
    refine wellFormed_padded (Nat.pos_of_ne_zero fun none => ?_) (by omega) negative
    exact small (le_of_eq (zero none).symm)

/-- A decimal and the numeral that a plain text holds it as have the same value. -/
theorem nearest_plainNumeral (negative : Bool) (d : Decimal) :
    (mk (d.plainNumeral negative).digits (d.plainNumeral negative).exponent).nearest =
      d.nearest := by
  unfold plainNumeral
  split
  case isTrue whole =>
    simp only [Json.Numeral.digits, Json.Numeral.exponent, Json.Numeral.marked, Option.getD_none,
      List.append_nil, List.length_nil]
    rw [digitsValue_append, digitsValue_replicate, digitsValue_natDigits, List.length_replicate,
      Nat.add_zero, nearest_times_pow]
    congr 2
    push_cast
    omega
  case isFalse small =>
    have long := d.length_padded
    simp only [Json.Numeral.digits, Json.Numeral.exponent, Json.Numeral.marked, Option.getD_some,
      List.take_append_drop, d.digitsValue_padded, List.length_drop]
    congr 2
    omega

end Decimal

/-! ### Texts of numbers -/

theorem visible_of_isDigit {c : Char} (h : c.isDigit) : Text.Visible c := by
  have code : 48 ≤ c.toNat ∧ c.toNat ≤ 57 := by
    simpa [Char.isDigit, UInt32.le_iff_toNat_le] using h
  exact ⟨by omega, by omega⟩

theorem visible_chars {n : Numeral} (h : n.WellFormed) (bare : n.power = none) {c : Char}
    (hc : c ∈ n.chars) : Text.Visible c := by
  have digit : ∀ {ds : List Char}, Digits ds → c ∈ ds → Text.Visible c :=
    fun all hc => visible_of_isDigit (all.2 c hc)
  rw [Numeral.chars, bare, powerChars, List.append_nil, List.mem_append, List.mem_append] at hc
  rcases hc with sign | whole | behind
  · split at sign
    case isTrue =>
      rw [List.mem_singleton.1 sign]
      decide
    case isFalse => cases sign
  · exact digit h.whole whole
  · cases fraction : n.fraction with
    | none =>
      rw [fraction] at behind
      cases behind
    | some ds =>
      rw [fraction, fractionChars] at behind
      rcases List.mem_cons.1 behind with rfl | back
      · decide
      · exact digit (h.fraction ds fraction) back

/-- The text of a numeral is read as the number nearest to it, unless that is infinite. -/
theorem numberOfText?_chars {n : Numeral} (h : n.WellFormed) (bare : n.power = none) {x : Number}
    (value : ofRatio n.negative (Decimal.mk n.digits n.exponent).nearest 1 = x)
    (finite : x.isFinite = true) : numberOfText? (String.ofList n.chars) = some x := by
  have trimmed : Text.trim (String.ofList n.chars) = String.ofList n.chars := by
    refine Text.trim_eq_self (fun c hc => ?_) fun c hc => ?_
    · rw [String.toList_ofList] at hc
      exact visible_chars h bare (List.mem_of_mem_head? hc)
    · rw [String.toList_ofList] at hc
      exact visible_chars h bare (List.mem_of_getLast? hc)
  rw [numberOfText?, trimmed, String.toList_ofList, decimal?_chars h bare, ofDecimal_eq, value,
    Option.filter_some, if_pos finite]

def plainDecimal (units : Nat) : Decimal := if units = 0 then ⟨0, 0⟩ else shortest .up units

theorem zero_plainDecimal {units : Nat} (fits : spacing units ∣ units) :
    (plainDecimal units).digits = 0 → (plainDecimal units).exponent = 0 := by
  unfold plainDecimal
  split
  case isTrue => exact fun _ => rfl
  case isFalse more =>
    exact fun none => absurd none (Nat.ne_of_gt (digits_shortest_pos (Nat.pos_of_ne_zero more) fits))

theorem nearest_plainDecimal {units : Nat} (fits : spacing units ∣ units) :
    (plainDecimal units).nearest = units := by
  unfold plainDecimal
  split
  case isTrue zero =>
    rw [zero, Decimal.nearest, Nat.zero_mul]
    rfl
  case isFalse more => exact nearest_shortest (Nat.pos_of_ne_zero more) fits

theorem plainText_finite (negative : Bool) {units : Nat} (fits : Representable units) :
    (Number.finite negative units fits).plainText =
      String.ofList ((plainDecimal units).plainNumeral negative).chars := by
  rw [Decimal.chars_plainNumeral, plainText, write, plainDecimal]
  simp only [apply_ite Layout.plain.decimalText]
  rfl

/-- A finite number is read back from its plain text. -/
theorem numberOfText?_plainText (negative : Bool) {units : Nat} (fits : Representable units) :
    numberOfText? (Number.finite negative units fits).plainText =
      some (.finite negative units fits) := by
  rw [plainText_finite]
  refine numberOfText?_chars
    (Decimal.wellFormed_plainNumeral (zero_plainDecimal fits.2) negative)
    (Decimal.power_plainNumeral negative _) ?_ rfl
  rw [Decimal.nearest_plainNumeral, nearest_plainDecimal fits.2, Decimal.negative_plainNumeral,
    ofRatio_self]

theorem nearest_integer {units : Nat} (fits : spacing units ∣ units) (whole : unit ∣ units) :
    (Decimal.mk (units / unit) 0).nearest = units := by
  simp only [Decimal.nearest, Int.toNat_zero, neg_zero, Nat.pow_zero, Nat.mul_one]
  rw [Nat.div_mul_cancel whole, roundUnits_self fits]

theorem natAbs_signed (negative : Bool) (n : Nat) : (signed negative n).natAbs = n := by
  unfold signed
  split <;> omega

/-- The sign of a number is that of its integer part, unless this is zero. -/
theorem signed_sign (negative : Bool) {part units : Nat} (same : part = 0 → units = 0) :
    signed (signed negative part < 0) units = signed negative units := by
  unfold signed
  cases negative with
  | false => simp
  | true =>
    rcases Nat.eq_zero_or_pos part with zero | pos
    · simp [zero, same zero]
    · simp [pos]

/-- A whole number is read back from the text of its integer part; a negative zero is read as
zero. -/
theorem numberOfText?_intText {negative : Bool} {units : Nat} (fits : Representable units)
    (whole : unit ∣ units) :
    numberOfText? (intText (signed negative (units / unit))) =
      some (.finite (signed negative (units / unit) < 0) units fits) := by
  rw [Json.intText_chars]
  refine numberOfText?_chars (Json.wellFormed_int _) rfl ?_ rfl
  have digits : (Json.intNumeral (signed negative (units / unit))).digits = units / unit := by
    rw [Numeral.digits, Json.intNumeral, natAbs_signed, Option.getD_none, List.append_nil,
      digitsValue_natDigits]
  rw [digits]
  exact (congrArg (ofRatio _ · 1) (nearest_integer fits.2 whole)).trans (ofRatio_self _ fits)

theorem isIntegral_finite {negative : Bool} {units : Nat} {fits : Representable units} :
    (Number.finite negative units fits).isIntegral = true ↔ unit ∣ units := by
  rw [isIntegral, beq_iff_eq, Nat.dvd_iff_mod_eq_zero]

end Number

/-- The text of a finite number is read as a number equal to it. -/
theorem Value.exists_numberOfText?_numberText {x : Number} (finite : x.isFinite = true) :
    ∃ y, numberOfText? (numberText x) = some y ∧ y.equals x = true := by
  cases x with
  | nan => cases finite
  | infinite negative => cases finite
  | finite negative units fits =>
    unfold numberText
    simp only
    split
    case isFalse =>
      have number : Number.finite negative units fits ≠ .nan := by rintro ⟨⟩
      exact ⟨_, Number.numberOfText?_plainText negative fits, (Number.equals_self _).2 number⟩
    case isTrue short =>
      have whole : Number.unit ∣ units := Number.isIntegral_finite.1 (Bool.and_elim_left short)
      refine ⟨_, Number.numberOfText?_intText fits whole, ?_⟩
      have place := Number.signed_sign negative (Nat.eq_zero_of_dvd_of_div_eq_zero whole)
      rw [Number.equals, Number.related, Number.position?, Number.position?, place]
      exact beq_self_eq_true _

end PluginFlow
