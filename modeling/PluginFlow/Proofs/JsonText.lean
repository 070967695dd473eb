import PluginFlow.Json.Reader
import PluginFlow.Proofs.NumeralText
import PluginFlow.Proofs.QuoteText

/-!
JSON documents and their texts. A document is read from its compact text without loss; what a reader
makes of it depends on the document alone.
-/

namespace PluginFlow

open Text.Utf8 (encode encodeChar)

/-- What the text of a number is read as. A number that is not finite has none. -/
def Number.draft : Number → Json.Draft
  | .finite negative units _ => .number ((decimal units).numeral negative)
  | _ => .null

namespace Json

def intNumeral (i : Int) : Numeral := ⟨i < 0, Number.natDigits i.natAbs, none, none⟩

namespace Document

mutual

def draft : Document → Draft
  | .null => .null
  | .bool b => .bool b
  | .number n => n.draft
  | .integer i => .number (intNumeral i)
  | .text s => textDraft s
  | .array items => .array (draftItems items) none
  | .object members => .object (draftMembers members) none

def draftItems : List Document → List Draft
  | [] => []
  | d :: rest => d.draft :: draftItems rest

def draftMembers : List (String × Document) → List (Draft × Draft)
  | [] => []
  | (k, d) :: rest => (textDraft k, d.draft) :: draftMembers rest

end

theorem draftItems_eq (items : List Document) : draftItems items = items.map draft := by
  induction items with
  | nil => rfl
  | cons d rest ih => rw [draftItems, ih, List.map_cons]

theorem draftMembers_eq (members : List (String × Document)) :
    draftMembers members = members.map fun m => (textDraft m.1, m.2.draft) := by
  induction members with
  | nil => rfl
  | cons m rest ih => rw [draftMembers, ih, List.map_cons]

def bytes (d : Document) : Bytes := encode d.compact

end Document

theorem encode_quoteText (s : String) :
    encode (quoteText s) = 34 :: ((s.toList.flatMap escapedChar).flatMap encodeChar ++ [34]) := by
  have mark : encodeChar '"' = [34] := rfl
  rw [quoteText, encode, String.toList_ofList, List.flatMap_append, List.flatMap_cons, mark]
  rfl

namespace Document

theorem compactItems_eq (items : List Document) : compactItems items = items.map compact := by
  induction items with
  | nil => rfl
  | cons d rest ih => rw [compactItems, ih, List.map_cons]

theorem compactMembers_eq (members : List (String × Document)) :
    compactMembers members = members.map fun m => quoteText m.1 ++ ":" ++ m.2.compact := by
  induction members with
  | nil => rfl
  | cons m rest ih => rw [compactMembers, ih, List.map_cons]

def memberBytes (m : String × Document) : Bytes := encode (quoteText m.1) ++ 58 :: m.2.bytes

end Document

def separator (isFirst : Bool) : Bytes := if isFirst then [] else [44]

def separated (isFirst : Bool) : List Bytes → Bytes
  | [] => []
  | part :: parts => separator isFirst ++ (part ++ separated false parts)

theorem encode_intercalate (parts : List String) :
    encode (",".intercalate parts) = separated true (parts.map encode) := by
  have comma : [','].flatMap encodeChar = [44] := rfl
  rw [encode, String.toList_intercalate]
  change ([','].intercalate (parts.map String.toList)).flatMap encodeChar = _
  induction parts with
  | nil => rfl
  | cons s parts ih =>
    cases parts with
    | nil =>
      simp only [List.map_cons, List.map_nil, List.intercalate_singleton, separated,
        List.append_nil]
      rfl
    | cons next parts =>
      simp only [List.map_cons] at ih ⊢
      rw [List.intercalate_cons_cons, List.flatMap_append, List.flatMap_append, comma, ih,
        List.append_assoc]
      rfl

namespace Document

theorem bytes_array (ds : List Document) :
    (array ds).bytes = 91 :: (separated true (ds.map bytes) ++ [93]) := by
  have opening : encode "[" = [91] := rfl
  have closing : encode "]" = [93] := rfl
  rw [bytes, compact, Text.Utf8.encode_append, Text.Utf8.encode_append, opening, closing,
    compactItems_eq, encode_intercalate, List.map_map, List.append_assoc]
  rfl

theorem bytes_object (ms : List (String × Document)) :
    (object ms).bytes = 123 :: (separated true (ms.map memberBytes) ++ [125]) := by
  have opening : encode "\x7b" = [123] := rfl
  have closing : encode "\x7d" = [125] := rfl
  have colon : encode ":" = [58] := rfl
  have member : encode ∘ (fun m : String × Document => quoteText m.1 ++ ":" ++ m.2.compact) =
      memberBytes := by
    funext m
    rw [Function.comp_apply, Text.Utf8.encode_append, Text.Utf8.encode_append, colon,
      List.append_assoc]
    rfl
  rw [bytes, compact, Text.Utf8.encode_append, Text.Utf8.encode_append, opening, closing,
    compactMembers_eq, encode_intercalate, List.map_map, member, List.append_assoc]
  rfl

end Document

theorem takeValue_quote (s : String) (fuel : Nat) (rest : Bytes) :
    takeValue (fuel + 1) (encode (quoteText s) ++ rest) = (textDraft s, rest) := by
  have quote := takeQuote_chars s.toList rest
  rw [encode_quoteText, List.cons_append, List.append_assoc, List.cons_append, List.nil_append,
    takeValue]
  have tight : skipSpace (34 :: ((s.toList.flatMap escapedChar).flatMap encodeChar ++ 34 :: rest)) =
      34 :: ((s.toList.flatMap escapedChar).flatMap encodeChar ++ 34 :: rest) := rfl
  have mark : is '\x7b' 34 = false ∧ is '[' 34 = false ∧ is '"' 34 = true := ⟨rfl, rfl, rfl⟩
  rw [tight]
  simp only [mark, quote]
  rfl

theorem takeValue_null (fuel : Nat) (rest : Bytes) :
    takeValue (fuel + 1) (encode "null" ++ rest) = (.null, rest) := by
  have word : encode "null" = [110, 117, 108, 108] := rfl
  rw [word, takeValue]
  rfl

theorem takeValue_bool (b : Bool) (fuel : Nat) (rest : Bytes) :
    takeValue (fuel + 1) (encode (boolText b) ++ rest) = (.bool b, rest) := by
  cases b with
  | true =>
    have word : encode (boolText true) = [116, 114, 117, 101] := rfl
    rw [word, takeValue]
    rfl
  | false =>
    have word : encode (boolText false) = [102, 97, 108, 115, 101] := rfl
    rw [word, takeValue]
    rfl

theorem encode_ofList (cs : List Char) : encode (String.ofList cs) = cs.flatMap encodeChar := by
  rw [encode, String.toList_ofList]

theorem takeValue_number (n : Number) (fuel : Nat) {rest : Bytes} (follows : Follows rest) :
    takeValue (fuel + 1) (encode (n.write .json) ++ rest) = (n.draft, rest) := by
  cases n with
  | nan => exact takeValue_null fuel rest
  | infinite negative => cases negative <;> exact takeValue_null fuel rest
  | finite negative units fits =>
    rw [Number.write_json, encode_ofList]
    exact takeValue_numeral (Number.wellFormed_decimal fits negative) fuel follows

theorem intText_chars (i : Int) : Number.intText i = String.ofList (intNumeral i).chars := by
  simp [Number.intText, intNumeral, Numeral.chars, fractionChars, powerChars]

theorem wellFormed_int (i : Int) : (intNumeral i).WellFormed := by
  refine ⟨Number.digits_natDigits _, ?_, by simp [intNumeral], by simp [intNumeral]⟩
  intro first
  rcases Nat.eq_zero_or_pos i.natAbs with zero | pos
  · rw [intNumeral, zero]
    rfl
  · exact absurd first (Number.head?_natDigits pos)

theorem takeValue_int (i : Int) (fuel : Nat) {rest : Bytes} (follows : Follows rest) :
    takeValue (fuel + 1) (encode (Number.intText i) ++ rest) = (.number (intNumeral i), rest) := by
  rw [intText_chars, encode_ofList]
  exact takeValue_numeral (wellFormed_int i) fuel follows

/-! ### Lists and members -/

/-- The first byte of a value is neither a blank nor the end of a list. -/
def Starts (b : UInt8) : Prop := isSpace b = false ∧ is ']' b = false

theorem starts_digit {b : UInt8} (digit : isDigit b = true) : Starts b :=
  ⟨isSpace_of_isDigit digit, is_of_isDigit digit (by decide)⟩

theorem exists_start_numeral {n : Numeral} (h : n.WellFormed) :
    ∃ b bs, n.chars.flatMap encodeChar = b :: bs ∧ Starts b := by
  unfold Numeral.chars
  cases n.negative with
  | true => exact ⟨45, _, rfl, rfl, rfl⟩
  | false =>
    obtain ⟨c, cs, front⟩ := List.exists_cons_of_ne_nil h.whole.1
    have digit : c.isDigit := h.whole.2 c (front ▸ List.mem_cons_self)
    rw [front, List.cons_append]
    simp only [Bool.false_eq_true, if_false, List.nil_append, List.flatMap_cons,
      encodeChar_of_isDigit digit]
    exact ⟨_, _, rfl, starts_digit (isDigit_toUInt8 digit)⟩

theorem Document.exists_start (d : Document) : ∃ b bs, d.bytes = b :: bs ∧ Starts b := by
  cases d with
  | null => exact ⟨110, _, rfl, rfl, rfl⟩
  | bool b =>
    cases b with
    | true => exact ⟨116, _, rfl, rfl, rfl⟩
    | false => exact ⟨102, _, rfl, rfl, rfl⟩
  | number n =>
    rw [bytes, compact]
    cases n with
    | nan => exact ⟨110, _, rfl, rfl, rfl⟩
    | infinite negative => cases negative <;> exact ⟨110, _, rfl, rfl, rfl⟩
    | finite negative units fits =>
      rw [Number.write_json, encode_ofList]
      exact exists_start_numeral (Number.wellFormed_decimal fits negative)
  | integer i =>
    rw [bytes, compact, intText_chars, encode_ofList]
    exact exists_start_numeral (wellFormed_int i)
  | text s =>
    rw [bytes, compact, encode_quoteText]
    exact ⟨34, _, rfl, rfl, rfl⟩
  | array items =>
    rw [bytes, compact, Text.Utf8.encode_append, Text.Utf8.encode_append]
    exact ⟨91, _, rfl, rfl, rfl⟩
  | object members =>
    rw [bytes, compact, Text.Utf8.encode_append, Text.Utf8.encode_append]
    exact ⟨123, _, rfl, rfl, rfl⟩

theorem takeItems_end (fuel : Nat) (isFirst : Bool) (rest : Bytes) :
    takeItems (fuel + 1) isFirst (93 :: rest) = ([], none, rest) := by
  rw [takeItems]
  rfl

theorem takeItems_item (d : Document) (isFirst : Bool) (fuel : Nat) (bs : Bytes) :
    takeItems (fuel + 1) isFirst (separator isFirst ++ (d.bytes ++ bs)) =
      ((takeValue fuel (d.bytes ++ bs)).1 ::
          (takeItems fuel false (takeValue fuel (d.bytes ++ bs)).2).1,
        (takeItems fuel false (takeValue fuel (d.bytes ++ bs)).2).2) := by
  cases isFirst with
  | true =>
    obtain ⟨b, front, start, space, bracket⟩ := d.exists_start
    have tight : skipSpace (b :: (front ++ bs)) = b :: (front ++ bs) := by
      rw [skipSpace, List.dropWhile_cons, space]
      rfl
    rw [separator, if_pos rfl, List.nil_append, start, List.cons_append, takeItems, tight]
    simp only [bracket]
    rfl
  | false =>
    have tight : skipSpace (44 :: (d.bytes ++ bs)) = 44 :: (d.bytes ++ bs) := rfl
    have mark : is ']' 44 = false ∧ is ',' 44 = true := ⟨rfl, rfl⟩
    change takeItems (fuel + 1) false (44 :: (d.bytes ++ bs)) = _
    rw [takeItems, tight]
    simp only [mark]
    rfl

theorem takeMembers_end (fuel : Nat) (isFirst : Bool) (rest : Bytes) :
    takeMembers (fuel + 1) isFirst (125 :: rest) = ([], none, rest) := by
  rw [takeMembers]
  rfl

theorem takeMembers_member (m : String × Document) (isFirst : Bool) (fuel : Nat) (bs : Bytes) :
    takeMembers (fuel + 2) isFirst (separator isFirst ++ (Document.memberBytes m ++ bs)) =
      ((textDraft m.1, (takeValue (fuel + 1) (m.2.bytes ++ bs)).1) ::
          (takeMembers (fuel + 1) false (takeValue (fuel + 1) (m.2.bytes ++ bs)).2).1,
        (takeMembers (fuel + 1) false (takeValue (fuel + 1) (m.2.bytes ++ bs)).2).2) := by
  have key := takeValue_quote m.1 fuel (58 :: (m.2.bytes ++ bs))
  have colon : skipSpace (58 :: (m.2.bytes ++ bs)) = 58 :: (m.2.bytes ++ bs) ∧ is ':' 58 = true :=
    ⟨rfl, rfl⟩
  rw [Document.memberBytes, List.append_assoc, List.cons_append]
  cases isFirst with
  | true =>
    rw [separator, if_pos rfl, List.nil_append]
    rw [encode_quoteText, List.cons_append] at key ⊢
    generalize (m.1.toList.flatMap escapedChar).flatMap encodeChar ++ [34] ++
      58 :: (m.2.bytes ++ bs) = text at *
    have tight : skipSpace (34 :: text) = 34 :: text := rfl
    have mark : is '\x7d' 34 = false := rfl
    rw [takeMembers, tight]
    simp only [mark, key, colon, Bool.true_or, if_true]
    rfl
  | false =>
    generalize encode (quoteText m.1) ++ 58 :: (m.2.bytes ++ bs) = text at *
    have tight : skipSpace (44 :: text) = 44 :: text := rfl
    have mark : is '\x7d' 44 = false ∧ is ',' 44 = true := ⟨rfl, rfl⟩
    change takeMembers (fuel + 2) false (44 :: text) = _
    rw [takeMembers, tight]
    simp only [mark, key, colon, Bool.false_or, Bool.false_eq_true, if_true, if_false]

theorem follows_mark {b : UInt8} (mark : b = 44 ∨ b = 93 ∨ b = 125) (bs : Bytes) :
    Follows (b :: bs) := by
  rintro c ⟨⟩
  rcases mark with rfl | rfl | rfl <;> decide

theorem takeValue_bracket (fuel : Nat) (bs : Bytes) :
    takeValue (fuel + 1) (91 :: bs) =
      (.array (takeItems fuel true bs).1 (takeItems fuel true bs).2.1,
        (takeItems fuel true bs).2.2) := by
  have tight : skipSpace (91 :: bs) = 91 :: bs := rfl
  have mark : is '\x7b' 91 = false ∧ is '[' 91 = true := ⟨rfl, rfl⟩
  rw [takeValue, tight]
  simp only [mark]
  rfl

theorem takeValue_brace (fuel : Nat) (bs : Bytes) :
    takeValue (fuel + 1) (123 :: bs) =
      (.object (takeMembers fuel true bs).1 (takeMembers fuel true bs).2.1,
        (takeMembers fuel true bs).2.2) := by
  have tight : skipSpace (123 :: bs) = 123 :: bs := rfl
  have mark : is '\x7b' 123 = true := rfl
  rw [takeValue, tight]
  simp only [mark]
  rfl

/-- What a number of steps suffices for: documents, the items of lists and the members of objects
that are no longer than that. -/
structure Takes (fuel : Nat) : Prop where
  value : ∀ (d : Document) (rest : Bytes), d.bytes.length ≤ fuel → Follows rest →
    takeValue fuel (d.bytes ++ rest) = (d.draft, rest)
  items : ∀ (isFirst : Bool) (ds : List Document) (rest : Bytes),
    (separated isFirst (ds.map Document.bytes)).length < fuel →
    takeItems fuel isFirst (separated isFirst (ds.map Document.bytes) ++ 93 :: rest) =
      (ds.map Document.draft, none, rest)
  members : ∀ (isFirst : Bool) (ms : List (String × Document)) (rest : Bytes),
    (separated isFirst (ms.map Document.memberBytes)).length < fuel →
    takeMembers fuel isFirst (separated isFirst (ms.map Document.memberBytes) ++ 125 :: rest) =
      (ms.map fun m => (textDraft m.1, m.2.draft), none, rest)

theorem follows_separated {α : Type} (form : α → Bytes) (xs : List α) {mark : UInt8}
    (h : mark = 93 ∨ mark = 125) (rest : Bytes) :
    Follows (separated false (xs.map form) ++ mark :: rest) := by
  cases xs with
  | nil => exact follows_mark (.inr h) rest
  | cons x xs => exact follows_mark (.inl rfl) _

theorem Takes.zero : Takes 0 where
  value d rest room _ := by
    obtain ⟨b, bs, start, -⟩ := d.exists_start
    rw [start] at room
    exact absurd room (Nat.not_succ_le_zero _)
  items _ _ _ room := absurd room (Nat.not_lt_zero _)
  members _ _ _ room := absurd room (Nat.not_lt_zero _)

theorem Takes.succ {fuel : Nat} (ih : Takes fuel) : Takes (fuel + 1) where
  value d rest room follows := by
    cases d with
    | null => exact takeValue_null fuel rest
    | bool b => exact takeValue_bool b fuel rest
    | number n => exact takeValue_number n fuel follows
    | integer i => exact takeValue_int i fuel follows
    | text s => exact takeValue_quote s fuel rest
    | array ds =>
      rw [Document.bytes_array] at room ⊢
      have inside : (separated true (ds.map Document.bytes)).length < fuel := by
        simp only [List.length_cons, List.length_append, List.length_nil] at room
        omega
      have items := ih.items true ds rest inside
      rw [List.cons_append, List.append_assoc, List.cons_append, List.nil_append,
        takeValue_bracket, items, Document.draft, Document.draftItems_eq]
    | object ms =>
      rw [Document.bytes_object] at room ⊢
      have inside : (separated true (ms.map Document.memberBytes)).length < fuel := by
        simp only [List.length_cons, List.length_append, List.length_nil] at room
        omega
      have members := ih.members true ms rest inside
      rw [List.cons_append, List.append_assoc, List.cons_append, List.nil_append,
        takeValue_brace, members, Document.draft, Document.draftMembers_eq]
  items isFirst ds rest room := by
    cases ds with
    | nil => exact takeItems_end fuel isFirst rest
    | cons d ds =>
      rw [List.map_cons, separated] at room ⊢
      have long : 0 < d.bytes.length := by
        obtain ⟨b, bs, start, -⟩ := d.exists_start
        rw [start]
        exact Nat.succ_pos _
      simp only [List.length_append] at room
      have first := ih.value d (separated false (ds.map Document.bytes) ++ 93 :: rest) (by omega)
        (follows_separated _ ds (.inl rfl) rest)
      have others := ih.items false ds rest (by omega)
      rw [List.append_assoc, List.append_assoc, takeItems_item, first, others]
      rfl
  members isFirst ms rest room := by
    cases ms with
    | nil => exact takeMembers_end fuel isFirst rest
    | cons m ms =>
      rw [List.map_cons, separated] at room ⊢
      have long : m.2.bytes.length + 1 ≤ (Document.memberBytes m).length := by
        rw [Document.memberBytes, List.length_append, List.length_cons]
        omega
      simp only [List.length_append] at room
      -- The key is read with the steps that are left for its value, so one of them must be left.
      obtain ⟨fuel, rfl⟩ := Nat.exists_eq_succ_of_ne_zero (show fuel ≠ 0 by omega)
      have first := ih.value m.2 (separated false (ms.map Document.memberBytes) ++ 125 :: rest)
        (by omega) (follows_separated _ ms (.inr rfl) rest)
      have others := ih.members false ms rest (by omega)
      rw [List.append_assoc, List.append_assoc, takeMembers_member, first, others]
      rfl

theorem takes (fuel : Nat) : Takes fuel := by
  induction fuel with
  | zero => exact .zero
  | succ fuel ih => exact ih.succ

namespace Document

/-- A document is read back from its compact text. -/
theorem parse_bytes (d : Document) : parse d.bytes = (d.draft, []) := by
  have whole := (takes (2 * d.bytes.length + 1)).value d [] (by omega) (by rintro c ⟨⟩)
  rwa [List.append_nil] at whole

/-- What a reader makes of the text of a document. -/
theorem read_bytes {α : Type} (r : Reader α) (d : Document) :
    Json.read r d.bytes = r 0 d.draft := by
  have closed : (skipSpace []).isEmpty = true := rfl
  rw [Json.read, parse_bytes]
  simp only [closed, if_true]
  exact bind_pure _

end Document

end Json
end PluginFlow
