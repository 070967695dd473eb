import PluginFlow.Json.Document
import PluginFlow.Json.Draft
import PluginFlow.Proofs.Utf8

/-!
Texts between quotation marks. Every text is read back from its quoted form, whatever characters it
holds.
-/

namespace PluginFlow.Json

open Text.Utf8 (encodeChar)

def pieces (c : Char) : List Piece :=
  if c = '"' ∨ c = '\\' ∨ c.toNat = 8 ∨ c.toNat = 12 ∨ c = '\n' ∨ c = '\r' ∨ c = '\t' then
    [.escaped c]
  else if c.toNat < 0x20 then [.unit c.toNat]
  else (encodeChar c).map .byte

def Quote.pushAll (ps : List Piece) (r : Quote × Bytes) : Quote × Bytes := ps.foldr Quote.push r

theorem Quote.pushAll_eq (ps : List Piece) (r : Quote × Bytes) :
    Quote.pushAll ps r = (⟨ps ++ r.1.pieces, r.1.ending⟩, r.2) := by
  induction ps with
  | nil => rfl
  | cons p ps ih =>
    rw [pushAll] at ih
    rw [pushAll, List.foldr_cons, ih]
    rfl

def textDraft (s : String) : Draft := .text ⟨s.toList.flatMap pieces, none⟩

theorem takeQuote_bytes {bs : List UInt8} (plain : ∀ b ∈ bs, 0x20 ≤ b.toNat ∧ b ≠ 34 ∧ b ≠ 92)
    (rest : Bytes) :
    takeQuote (bs ++ rest) = Quote.pushAll (bs.map .byte) (takeQuote rest) := by
  induction bs with
  | nil => rfl
  | cons b bs ih =>
    rw [List.forall_mem_cons] at plain
    obtain ⟨⟨printed, quotation, backslash⟩, more⟩ := plain
    have other : ∀ c : Char, ∀ n : UInt8, n.toNat = c.toNat → b ≠ n → is c b = false := by
      intro c n hn hb
      rw [is, beq_eq_false_iff_ne, ← hn]
      exact fun h => hb (UInt8.toNat_inj.1 h)
    have h34 := other '"' 34 rfl quotation
    have h92 := other '\\' 92 rfl backslash
    have h20 : ¬ b.toNat < 0x20 := by omega
    rw [List.cons_append, takeQuote.eq_def]
    simp only [h34, h92, h20, Bool.false_eq_true, if_false, ih more]
    rfl

/-- The bytes of a character that is written as itself. -/
theorem plain_of_mem_encodeChar {c : Char} (printed : 0x20 ≤ c.toNat) (quotation : c ≠ '"')
    (backslash : c ≠ '\\') : ∀ b ∈ encodeChar c, 0x20 ≤ b.toNat ∧ b ≠ 34 ∧ b ≠ 92 := by
  have h34 : c.toNat ≠ 34 := fun h => quotation (Char.toNat_inj.1 h)
  have h92 : c.toNat ≠ 92 := fun h => backslash (Char.toNat_inj.1 h)
  have byte : ∀ n : Nat, 0x20 ≤ n → n < 256 → n ≠ 34 → n ≠ 92 →
      0x20 ≤ n.toUInt8.toNat ∧ n.toUInt8 ≠ 34 ∧ n.toUInt8 ≠ 92 := by
    intro n low high no34 no92
    have value := Text.Utf8.toNat_toUInt8 high
    refine ⟨by omega, ?_, ?_⟩
    · exact fun h => no34 (by rw [← value, h]; rfl)
    · exact fun h => no92 (by rw [← value, h]; rfl)
  have valid : c.toNat < 0x110000 := by
    rcases c.valid with low | ⟨-, high⟩
    · exact Nat.lt_trans low (by decide)
    · exact high
  unfold encodeChar
  simp only
  split
  · simp only [List.forall_mem_singleton]
    exact byte _ printed (by omega) h34 h92
  split
  · simp only [List.forall_mem_cons, List.not_mem_nil, false_imp_iff, implies_true, and_true]
    exact ⟨byte _ (by omega) (by omega) (by omega) (by omega),
      byte _ (by omega) (by omega) (by omega) (by omega)⟩
  split
  · simp only [List.forall_mem_cons, List.not_mem_nil, false_imp_iff, implies_true, and_true]
    exact ⟨byte _ (by omega) (by omega) (by omega) (by omega),
      byte _ (by omega) (by omega) (by omega) (by omega),
      byte _ (by omega) (by omega) (by omega) (by omega)⟩
  · simp only [List.forall_mem_cons, List.not_mem_nil, false_imp_iff, implies_true, and_true]
    exact ⟨byte _ (by omega) (by omega) (by omega) (by omega),
      byte _ (by omega) (by omega) (by omega) (by omega),
      byte _ (by omega) (by omega) (by omega) (by omega),
      byte _ (by omega) (by omega) (by omega) (by omega)⟩

/-- A control character is written by its number. -/
theorem escapedUnit : ∀ n < 0x20,
    (['\\', 'u', '0', '0'] ++ Text.hexByte n.toUInt8).flatMap encodeChar =
        [92, 117, 48, 48, (Text.hexDigit (n / 16)).toNat.toUInt8,
          (Text.hexDigit (n % 16)).toNat.toUInt8] ∧
      hexUnit? 48 48 (Text.hexDigit (n / 16)).toNat.toUInt8
        (Text.hexDigit (n % 16)).toNat.toUInt8 = some n := by
  decide

theorem takeQuote_escape {d : Char} {b : UInt8} (short : shortEscape? b = some d)
    (other : is 'u' b = false) (rest : Bytes) :
    takeQuote (92 :: b :: rest) = Quote.pushAll [.escaped d] (takeQuote rest) := by
  have mark : is '"' 92 = false ∧ is '\\' 92 = true := ⟨rfl, rfl⟩
  rw [takeQuote.eq_def]
  simp only [mark, other, short]
  rfl

theorem takeQuote_char (c : Char) (rest : Bytes) :
    takeQuote ((escapedChar c).flatMap encodeChar ++ rest) =
      Quote.pushAll (pieces c) (takeQuote rest) := by
  have back : ∀ n : Nat, c.toNat = n → c = Char.ofNat n := by
    rintro n rfl
    exact (Char.ofNat_toNat c).symm
  unfold escapedChar pieces
  by_cases quotation : c = '"'
  · subst quotation
    exact @takeQuote_escape '"' 34 rfl rfl rest
  by_cases backslash : c = '\\'
  · subst backslash
    exact @takeQuote_escape '\\' 92 rfl rfl rest
  by_cases backspace : c.toNat = 8
  · obtain rfl := back 8 backspace
    exact @takeQuote_escape (Char.ofNat 8) 98 rfl rfl rest
  by_cases formFeed : c.toNat = 12
  · obtain rfl := back 12 formFeed
    exact @takeQuote_escape (Char.ofNat 12) 102 rfl rfl rest
  by_cases lineFeed : c = '\n'
  · subst lineFeed
    exact @takeQuote_escape '\n' 110 rfl rfl rest
  by_cases carriageReturn : c = '\r'
  · subst carriageReturn
    exact @takeQuote_escape '\r' 114 rfl rfl rest
  by_cases tab : c = '\t'
  · subst tab
    exact @takeQuote_escape '\t' 116 rfl rfl rest
  simp only [quotation, backslash, backspace, formFeed, lineFeed, carriageReturn, tab, if_false,
    or_self]
  by_cases control : c.toNat < 0x20
  · obtain ⟨bytes, unit⟩ := escapedUnit c.toNat control
    have mark : is '"' 92 = false ∧ is '\\' 92 = true ∧ is 'u' 117 = true := ⟨rfl, rfl, rfl⟩
    rw [if_pos control, if_pos control, bytes, List.cons_append, takeQuote.eq_def]
    simp only [mark, List.cons_append, List.nil_append, unit]
    rfl
  · rw [if_neg control, if_neg control, List.flatMap_singleton]
    exact takeQuote_bytes
      (plain_of_mem_encodeChar (Nat.le_of_not_lt control) quotation backslash) rest

/-- A text is read up to the quotation mark behind it. -/
theorem takeQuote_chars (cs : List Char) (rest : Bytes) :
    takeQuote ((cs.flatMap escapedChar).flatMap encodeChar ++ 34 :: rest) =
      (⟨cs.flatMap pieces, none⟩, rest) := by
  induction cs with
  | nil =>
    rw [List.flatMap_nil, List.flatMap_nil, List.nil_append, takeQuote.eq_def]
    rfl
  | cons c cs ih =>
    rw [List.flatMap_cons, List.flatMap_append, List.append_assoc, takeQuote_char, ih,
      Quote.pushAll_eq, List.flatMap_cons]

theorem pieceBytes_bytes (bs : List UInt8) (ending : Option Stop) (rest : List Piece) :
    pieceBytes ending (bs.map .byte ++ rest) = (bs ++ ·) <$> pieceBytes ending rest := by
  induction bs with
  | nil => exact (id_map _).symm
  | cons b bs ih =>
    rw [List.map_cons, List.cons_append, pieceBytes, ih]
    cases pieceBytes ending rest with
    | ok _ => rfl
    | error _ => rfl

theorem pieceBytes_char (c : Char) (ending : Option Stop) (rest : List Piece) :
    pieceBytes ending (pieces c ++ rest) = (encodeChar c ++ ·) <$> pieceBytes ending rest := by
  unfold pieces
  split
  case isTrue =>
    rw [List.cons_append, List.nil_append, pieceBytes]
    rfl
  case isFalse =>
    split
    case isTrue control =>
      rw [List.cons_append, List.nil_append, pieceBytes.eq_def]
      simp only
      rw [if_neg (by omega), if_neg (by omega), Char.ofNat_toNat]
      rfl
    case isFalse => exact pieceBytes_bytes _ _ _

theorem pieceBytes_chars (cs : List Char) :
    pieceBytes none (cs.flatMap pieces) = .ok (cs.flatMap encodeChar) := by
  induction cs with
  | nil => rfl
  | cons c cs ih =>
    rw [List.flatMap_cons, pieceBytes_char, ih]
    rfl

/-- A text is read back from its quoted form. -/
theorem read_quote (s : String) : Quote.read ⟨s.toList.flatMap pieces, none⟩ = .ok s := by
  have bytes : s.toList.flatMap encodeChar = Text.Utf8.encode s := rfl
  simp only [Quote.read, pieceBytes_chars, bytes, Text.Utf8.decode?_encode]

end PluginFlow.Json
