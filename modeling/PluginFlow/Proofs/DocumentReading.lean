import PluginFlow.Proofs.DecimalReading

/-!
Documents as texts of one line. A document whose numbers are integers is read back from its compact
text as itself, and no byte of that text is a control character, whatever its texts hold.
-/

namespace PluginFlow.Json

open Text.Utf8 (encode encodeChar)

/-! ### Reading -/

def Numeral.document? (n : Numeral) : Option Document :=
  match n.fraction, n.power with
  | none, none =>
    let size : Int := Number.digitsValue n.whole
    some (.integer (if n.negative then -size else size))
  | _, _ => n.number?.map .number

def Draft.text? : Draft → Option String
  | .text q => q.read.toOption
  | _ => none

mutual

def Draft.document? : Draft → Option Document
  | .null => some .null
  | .bool b => some (.bool b)
  | .number n => n.document?
  | .text q => q.read.toOption.map .text
  | .array items none => (documents? items).map .array
  | .object members none => (members? members).map .object
  | _ => none

def documents? : List Draft → Option (List Document)
  | [] => some []
  | d :: rest => do return (← d.document?) :: (← documents? rest)

def members? : List (Draft × Draft) → Option (List (String × Document))
  | [] => some []
  | (key, d) :: rest => do return ((← key.text?), (← d.document?)) :: (← members? rest)

end

def document? (bs : Bytes) : Option Document :=
  let (d, rest) := parse bs
  if (skipSpace rest).isEmpty then d.document? else none

namespace Document

/-- A document without numbers other than integers. -/
inductive Exact : Document → Prop
  | null : Exact .null
  | bool (b : Bool) : Exact (.bool b)
  | integer (i : Int) : Exact (.integer i)
  | text (s : String) : Exact (.text s)
  | array {items : List Document} (exact : ∀ d ∈ items, Exact d) : Exact (.array items)
  | object {members : List (String × Document)} (exact : ∀ m ∈ members, Exact m.2) :
      Exact (.object members)

def ExactMembers (members : List (String × Document)) : Prop := ∀ m ∈ members, m.2.Exact

@[simp] theorem exact_integer (i : Int) : (integer i).Exact := .integer i

@[simp] theorem exact_text (s : String) : (text s).Exact := .text s

@[simp] theorem exact_array {items : List Document} :
    (array items).Exact ↔ ∀ d ∈ items, d.Exact :=
  ⟨fun | .array exact => exact, .array⟩

@[simp] theorem exact_object {members : List (String × Document)} :
    (object members).Exact ↔ ExactMembers members :=
  ⟨fun | .object exact => exact, .object⟩

@[simp] theorem exactMembers_nil : ExactMembers [] := fun _ h => nomatch h

@[simp] theorem exactMembers_cons {key : String} {d : Document}
    {members : List (String × Document)} :
    ExactMembers ((key, d) :: members) ↔ d.Exact ∧ ExactMembers members :=
  List.forall_mem_cons

@[simp] theorem exactMembers_append {members members' : List (String × Document)} :
    ExactMembers (members ++ members') ↔ ExactMembers members ∧ ExactMembers members' :=
  List.forall_mem_append

@[simp] theorem exactMembers_optional (key : String) (value : Option String) :
    ExactMembers (Document.optional key value .text) := by
  cases value with
  | none => exact exactMembers_nil
  | some s => exact exactMembers_cons.2 ⟨.text s, exactMembers_nil⟩

theorem document?_intNumeral (i : Int) : (intNumeral i).document? = some (.integer i) := by
  have value : (if i < 0 then -(i.natAbs : Int) else i.natAbs) = i := by
    split <;> omega
  simp only [Numeral.document?, intNumeral, Number.digitsValue_natDigits, decide_eq_true_eq, value]

theorem text?_textDraft (s : String) : (textDraft s).text? = some s := by
  rw [textDraft, Draft.text?, read_quote]
  rfl

theorem documents?_draft {items : List Document}
    (read : ∀ d ∈ items, d.draft.document? = some d) :
    documents? (items.map draft) = some items := by
  induction items with
  | nil => rfl
  | cons d rest ih =>
    rw [List.forall_mem_cons] at read
    rw [List.map_cons, documents?, read.1, ih read.2]
    rfl

theorem members?_draft {members : List (String × Document)}
    (read : ∀ m ∈ members, m.2.draft.document? = some m.2) :
    members? (members.map fun m => (textDraft m.1, m.2.draft)) = some members := by
  induction members with
  | nil => rfl
  | cons m rest ih =>
    rw [List.forall_mem_cons] at read
    rw [List.map_cons, members?, text?_textDraft, read.1, ih read.2]
    rfl

theorem Exact.document?_draft {d : Document} (h : d.Exact) : d.draft.document? = some d := by
  induction h with
  | null => rfl
  | bool b => rfl
  | integer i => exact document?_intNumeral i
  | text s =>
    rw [draft, textDraft, Draft.document?, read_quote]
    rfl
  | array _ ih =>
    rw [draft, draftItems_eq, Draft.document?, documents?_draft ih]
    rfl
  | object _ ih =>
    rw [draft, draftMembers_eq, Draft.document?, members?_draft ih]
    rfl

/-- A document is read back from its text. -/
theorem Exact.document?_bytes {d : Document} (h : d.Exact) : document? d.bytes = some d := by
  have closed : (skipSpace []).isEmpty = true := rfl
  rw [document?, parse_bytes]
  simp only [closed, if_true]
  exact h.document?_draft

end Document

/-! ### Lines -/

/-- Bytes without a control character. -/
def Inline (bs : Bytes) : Prop := ∀ b ∈ bs, 0x20 ≤ b.toNat

instance (bs : Bytes) : Decidable (Inline bs) := List.decidableBAll _ bs

theorem Inline.nil : Inline [] := fun _ h => nomatch h

theorem Inline.cons {b : UInt8} {bs : Bytes} (h : 0x20 ≤ b.toNat) (h' : Inline bs) :
    Inline (b :: bs) := List.forall_mem_cons.2 ⟨h, h'⟩

theorem Inline.append {bs bs' : Bytes} (h : Inline bs) (h' : Inline bs') : Inline (bs ++ bs') :=
  List.forall_mem_append.2 ⟨h, h'⟩

theorem Inline.line_feed_not_mem {bs : Bytes} (h : Inline bs) : 10 ∉ bs :=
  fun feed => absurd (h 10 feed) (by decide)

theorem inline_encodeChar {c : Char} (printed : 0x20 ≤ c.toNat) : Inline (encodeChar c) := by
  by_cases quotation : c = '"'
  · subst quotation
    exact .cons (by decide) .nil
  by_cases backslash : c = '\\'
  · subst backslash
    exact .cons (by decide) .nil
  exact fun b hb => (plain_of_mem_encodeChar printed quotation backslash b hb).1

theorem inline_chars {cs : List Char} (printed : ∀ c ∈ cs, 0x20 ≤ c.toNat) :
    Inline (cs.flatMap encodeChar) := by
  intro b hb
  obtain ⟨c, hc, hb⟩ := List.mem_flatMap.1 hb
  exact inline_encodeChar (printed c hc) b hb

/-- What stands between quotation marks for a character is printed. -/
theorem printed_of_mem_escapedChar {c d : Char} (hd : d ∈ escapedChar c) : 0x20 ≤ d.toNat := by
  have short {e : Char} (printed : 0x20 ≤ e.toNat) (hd : d ∈ ['\\', e]) : 0x20 ≤ d.toNat := by
    rcases List.mem_pair.1 hd with rfl | rfl
    · decide
    · exact printed
  have unit : ∀ n < 0x20, (['\\', 'u', '0', '0'] ++ Text.hexByte n.toUInt8).all
      (0x20 ≤ ·.toNat) = true := by decide
  unfold escapedChar at hd
  split_ifs at hd with quotation backslash backspace formFeed lineFeed carriageReturn tab control
  case pos => exact short (by decide) hd
  case pos => exact short (by decide) hd
  case pos => exact short (by decide) hd
  case pos => exact short (by decide) hd
  case pos => exact short (by decide) hd
  case pos => exact short (by decide) hd
  case pos => exact short (by decide) hd
  case pos => exact of_decide_eq_true (List.all_eq_true.1 (unit _ control) d hd)
  case neg =>
    obtain rfl := List.mem_singleton.1 hd
    exact Nat.le_of_not_lt control

theorem inline_quoteText (s : String) : Inline (encode (quoteText s)) := by
  rw [encode_quoteText]
  refine .cons (by decide) (.append (inline_chars fun c hc => ?_) (.cons (by decide) .nil))
  obtain ⟨d, -, hc⟩ := List.mem_flatMap.1 hc
  exact printed_of_mem_escapedChar hc

theorem inline_separated {parts : List Bytes} (h : ∀ part ∈ parts, Inline part) (isFirst : Bool) :
    Inline (separated isFirst parts) := by
  induction parts generalizing isFirst with
  | nil => exact .nil
  | cons part parts ih =>
    rw [List.forall_mem_cons] at h
    refine .append ?_ (.append h.1 (ih h.2 false))
    cases isFirst with
    | true => exact .nil
    | false => exact .cons (by decide) .nil

/-- The text of a document is one line. -/
theorem Document.Exact.inline {d : Document} (h : d.Exact) : Inline d.bytes := by
  induction h with
  | null =>
    have word : Inline Document.null.bytes := by decide
    exact word
  | bool b =>
    have words : ∀ b, Inline (Document.bool b).bytes := by decide
    exact words b
  | integer i =>
    rw [bytes, compact, intText_chars, encode_ofList]
    exact inline_chars fun c hc => (Number.visible_chars (wellFormed_int i) rfl hc).1.le
  | text s => exact inline_quoteText s
  | array _ ih =>
    rw [bytes_array]
    refine .cons (by decide) (.append (inline_separated ?_ true) (.cons (by decide) .nil))
    exact List.forall_mem_map.2 ih
  | object _ ih =>
    rw [bytes_object]
    refine .cons (by decide) (.append (inline_separated ?_ true) (.cons (by decide) .nil))
    refine List.forall_mem_map.2 fun m hm => ?_
    exact .append (inline_quoteText m.1) (.cons (by decide) (ih m hm))

end PluginFlow.Json
