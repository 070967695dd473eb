import PluginFlow.Proofs.AddressText
import PluginFlow.Proofs.Utf8

/-!
Hosts and their texts. The text of an address is read as that address, and the name of a host is an
ASCII text without blanks, colons and brackets.
-/

namespace PluginFlow

namespace Text

theorem lowerChar_eq_self {c : Char} (h : c.toNat < 65 ∨ 90 < c.toNat) : lowerChar c = c := by
  rw [lowerChar, if_neg]
  rintro ⟨low, high⟩
  have : 65 ≤ c.toNat := low
  have : c.toNat ≤ 90 := high
  omega

namespace Utf8

theorem encode_ascii {s : String} (h : ∀ c ∈ s.toList, c.toNat < 128) :
    encode s = s.toList.map fun c => c.toNat.toUInt8 := by
  have one : ∀ c ∈ s.toList, encodeChar c = [c.toNat.toUInt8] := by
    intro c hc
    have low := h c hc
    rw [encodeChar]
    exact if_pos low
  rw [encode, List.flatMap_def, List.map_congr_left one, ← List.flatMap_def, List.map_eq_flatMap]

end Utf8
end Text

namespace Net

namespace Host

theorem percentByte?_eq_none {mark high low : UInt8} (h : mark ≠ 37) :
    percentByte? mark high low = none := by
  simp [percentByte?, h]

theorem percentDecode_eq_self {bs : List UInt8} (h : 37 ∉ bs) : percentDecode bs = bs := by
  fun_induction percentDecode bs with
  | case1 b x y rest z found ih =>
    rw [percentByte?_eq_none fun mark => h (mark ▸ List.mem_cons_self)] at found
    cases found
  | case2 b x y rest none ih => rw [ih fun hm => h (List.mem_cons_of_mem _ hm)]
  | case3 bs => rfl

/-- An ASCII text without brackets and percent signs is read as the name in its ASCII form. -/
theorem parse_ascii {s : String} {name : List Char} (ascii : ∀ c ∈ s.toList, c.toNat < 128)
    (plain : '%' ∉ s.toList) (front : bracketed? s.toList = none)
    (form : Idna.toAscii? s.toList = some name) : parse s = ofName name := by
  have bytes : 37 ∉ Text.Utf8.encode s := by
    rw [Text.Utf8.encode_ascii ascii]
    intro h
    obtain ⟨c, hc, byte⟩ := List.mem_map.1 h
    have low := ascii c hc
    have value := congrArg UInt8.toNat byte
    simp only [Nat.toUInt8, UInt8.toNat_ofNat'] at value
    have percent : c = '%' := Char.toNat_inj.1 (by change _ = 37; change _ = 37 at value; omega)
    exact plain (percent ▸ hc)
  simp only [parse, front, percentDecode_eq_self bytes, Text.Utf8.decode?_encode s, form]

theorem part?_natDigits (o : UInt8) : part? (Number.natDigits o.toNat) = some o.toNat := by
  have all : ∀ n < 256, part? (Number.natDigits n) = some n := by decide +kernel
  exact all _ o.toNat_lt

theorem ofParts?_octets (x : Ipv4) : ofParts? (x.octets.map UInt8.toNat) = some x := by
  have ha := x.a.toNat_lt
  have hb := x.b.toNat_lt
  have hc := x.c.toNat_lt
  have hd := x.d.toNat_lt
  have value := x.ofNat_toNat
  rw [Ipv4.toNat] at value
  simp [ofParts?, Ipv4.octets, Nat.not_lt.2, Nat.le_of_lt_succ, ha, hb, hc, hd, value]

theorem bracketed?_eq_none {cs : List Char} (h : '[' ∉ cs) : bracketed? cs = none := by
  unfold bracketed?
  split
  · exact absurd List.mem_cons_self h
  · rfl

theorem numericLabels_text (x : Ipv4) : numericLabels x.text.toList = x.parts := by
  have last : (x.parts.getLast? == some []) = false := by
    simp [Ipv4.parts, Ipv4.octets, Number.natDigits, Nat.toDigits_ne_nil]
  rw [numericLabels, x.splitOn_text, last]
  rfl

theorem ipv4?_text (x : Ipv4) : ipv4? x.text.toList = some x := by
  have read : x.parts.mapM part? = some (x.octets.map UInt8.toNat) := by
    simp [Ipv4.parts, Ipv4.octets, part?_natDigits]
  rw [ipv4?, numericLabels_text, read]
  exact ofParts?_octets x

theorem endsInNumber_text (x : Ipv4) : endsInNumber x.text.toList = true := by
  have last : x.parts.getLast? = some (Number.natDigits x.d.toNat) := rfl
  simp only [endsInNumber, numericLabels_text, last, part?_natDigits, Option.isSome_some,
    Bool.or_true]

/-- The characters of a dotted decimal text stand between the full stop and the colon. -/
theorem range_of_mem_text {x : Ipv4} {c : Char} (h : c ∈ x.text.toList) :
    c.toNat < 58 ∧ 46 ≤ c.toNat ∧ c.toNat ≠ 47 := by
  rcases Ipv4.mem_text h with rfl | digit
  · decide
  · obtain ⟨low, high⟩ := Char.isDigit_iff_toNat.1 digit
    change 48 ≤ c.toNat at low
    change c.toNat ≤ 57 at high
    omega

theorem toAscii?_text (x : Ipv4) : Idna.toAscii? x.text.toList = some x.text.toList := by
  have lower : x.text.toList.map Text.lowerChar = x.text.toList := by
    refine Eq.trans (List.map_congr_left ?_) (List.map_id _)
    intro c hc
    have range := range_of_mem_text hc
    exact Text.lowerChar_eq_self (.inl (by omega))
  have ascii : x.text.toList.all Idna.isAscii = true := by
    rw [List.all_eq_true]
    intro c hc
    have range := range_of_mem_text hc
    exact decide_eq_true (by omega)
  have unmarked : x.parts.any Idna.marker.isPrefixOf = false := by
    rw [List.any_eq_false]
    intro part hp marked
    obtain ⟨rest, rfl⟩ := List.isPrefixOf_iff_prefix.1 marked
    exact absurd (Ipv4.isDigit_of_mem_parts hp 'x' List.mem_cons_self) (by decide)
  rw [Idna.toAscii?, Idna.isPlain, lower, x.splitOn_text, ascii, unmarked]
  rfl

/-- The text of an IPv4 address is read as that address. -/
theorem parse_ipv4_text (x : Ipv4) : parse x.text = .ok (.ipv4 x) := by
  have outside : ∀ {c : Char}, (c.toNat < 46 ∨ 58 ≤ c.toNat) → c ∉ x.text.toList := by
    intro c range hc
    have := range_of_mem_text hc
    omega
  have ascii : ∀ c ∈ x.text.toList, c.toNat < 128 := by
    intro c hc
    have := range_of_mem_text hc
    omega
  have allowed : x.text.toList.any isForbidden = false := by
    have table : ∀ n < 58, 46 ≤ n → n ≠ 47 → isForbidden (Char.ofNat n) = false := by decide
    rw [List.any_eq_false]
    intro c hc
    obtain ⟨high, low, slash⟩ := range_of_mem_text hc
    rw [← Char.ofNat_toNat c, table c.toNat high low slash]
    exact Bool.false_ne_true
  have shown : x.text.toList.isEmpty = false := List.isEmpty_eq_false_iff.2 x.toList_text_ne_nil
  rw [parse_ascii ascii (outside (by decide)) (bracketed?_eq_none (outside (by decide)))
    (toAscii?_text x)]
  simp only [ofName, allowed, shown, endsInNumber_text, ipv4?_text]
  rfl

/-- A text between brackets is read as an IPv6 address. -/
theorem parse_brackets (cs : List Char) :
    parse (String.ofList ('[' :: cs ++ [']'])) = ofBrackets (some cs) := by
  simp [parse, bracketed?, List.getLast?_append]

end Host

/-! ### Names -/

def LowerAscii (n : Nat) : Prop := n < 128 ∧ (n < 65 ∨ 90 < n)

instance (n : Nat) : Decidable (LowerAscii n) := inferInstanceAs (Decidable (_ ∧ _))

theorem LowerAscii.ofNat {n : Nat} (h : LowerAscii n) : LowerAscii (Char.ofNat n).toNat := by
  have all : ∀ n < 128, LowerAscii n → LowerAscii (Char.ofNat n).toNat := by decide
  exact all n h.1 h

theorem LowerAscii.lowerChar {c : Char} (h : c.toNat < 128) :
    LowerAscii (Text.lowerChar c).toNat := by
  have all : ∀ n < 128, LowerAscii (Text.lowerChar (Char.ofNat n)).toNat := by decide
  rw [← Char.ofNat_toNat c]
  exact all c.toNat h

namespace Punycode

theorem digitChar_lower {d : Nat} (h : d < 36) : LowerAscii (digitChar d).toNat := by
  have all : ∀ d < 36, LowerAscii (digitChar d).toNat := by decide
  exact all d h

theorem digits_lower (bias place n : Nat) : ∀ c ∈ digits bias place n, LowerAscii c.toNat := by
  fun_induction digits bias place n with
  | case1 place n t low =>
    have small := threshold_le place bias
    simpa using digitChar_lower (show n < 36 by omega)
  | case2 place n t high ih =>
    have small : t ≤ 26 := threshold_le place bias
    have rest : (n - t) % (36 - t) < 36 - t := Nat.mod_lt _ (by omega)
    exact List.forall_mem_cons.2 ⟨digitChar_lower (by omega), ih⟩

theorem pass_lower {basic level : Nat} {w : Writing} (h : ∀ c ∈ w.out, LowerAscii c.toNat)
    (n : Nat) : ∀ c ∈ (w.pass basic level n).out, LowerAscii c.toNat := by
  unfold Writing.pass
  split
  · exact h
  · split
    · intro x hx
      exact (List.mem_append.1 hx).elim (h x) (digits_lower _ _ _ x)
    · exact h

theorem foldl_pass_lower {basic level : Nat} {label : List Nat} {w : Writing}
    (h : ∀ c ∈ w.out, LowerAscii c.toNat) :
    ∀ c ∈ (label.foldl (Writing.pass basic level) w).out, LowerAscii c.toNat := by
  induction label generalizing w with
  | nil => exact h
  | cons c label ih => exact ih (pass_lower h c)

theorem writeLevels_lower {label levels : List Nat} {basic reached : Nat} {w : Writing}
    (h : ∀ c ∈ w.out, LowerAscii c.toNat) :
    ∀ c ∈ (writeLevels label basic levels reached w).out, LowerAscii c.toNat := by
  induction levels generalizing reached w with
  | nil => exact h
  | cons level levels ih => exact ih (foldl_pass_lower h)

/-- A label without capital letters has none in its text either. -/
theorem encode_lower {label : List Nat} (h : ∀ n ∈ label, n < 65 ∨ 90 < n) :
    ∀ c ∈ encode label, LowerAscii c.toNat := by
  apply writeLevels_lower
  intro c hc
  rcases List.mem_append.1 hc with basic | dash
  · obtain ⟨n, hn, rfl⟩ := List.mem_map.1 basic
    obtain ⟨mem, low⟩ := List.mem_filter.1 hn
    exact LowerAscii.ofNat ⟨of_decide_eq_true low, h n mem⟩
  · split at dash
    · cases dash
    · rw [List.mem_singleton.1 dash]
      decide

end Punycode

namespace Idna

open Text.Packed

theorem numbers_mappingLines : ∃ rest, numbers mappingLines = 390 :: 159 :: 64 :: rest := by
  obtain ⟨line, lines, h⟩ : ∃ line lines, mappingLines = line :: lines := ⟨_, _, rfl⟩
  obtain ⟨cs, hc⟩ : ∃ cs, line.toList = 'm' :: 'M' :: '/' :: 'E' :: 'g' :: 'C' :: cs := by
    injection h with h
    subst h
    exact ⟨_, rfl⟩
  rw [numbers, h, List.flatMap_cons, hc]
  exact ⟨_, rfl⟩

/-- The table begins with the characters before the capital letters and with these. -/
theorem exists_entries_eq :
    ∃ rest, entries = ⟨0, 65, .kept⟩ :: ⟨65, 26, .shifted 32⟩ :: rest := by
  obtain ⟨rest, h⟩ := numbers_mappingLines
  refine ⟨entriesFrom (rest.length + 1) 91 0 rest, ?_⟩
  rw [entries, h]
  simp [entriesFrom, signed]

/-- A capital letter stands for the small one. -/
theorem mapped?_capital {c : Nat} (low : 65 ≤ c) (high : c ≤ 90) : mapped? c = some [c + 32] := by
  obtain ⟨rest, h⟩ := exists_entries_eq
  have found : entryOf? c = some ⟨65, 26, .shifted 32⟩ := by
    have before : (decide (0 ≤ c) && decide (c < 0 + 65)) = false := by simp [low]
    have here : (decide (65 ≤ c) && decide (c < 65 + 26)) = true := by
      simp only [Bool.and_eq_true, decide_eq_true_eq]
      omega
    unfold entryOf?
    rw [h]
    simp only [List.find?_cons, before, here]
  have moved : ((c : Int) + 32).toNat = c + 32 := by omega
  simp only [mapped?, found, Option.bind_some, Entry.target?, moved]

theorem range_of_isKept {c : Nat} (h : isKept c = true) : c < 65 ∨ 90 < c := by
  refine Decidable.byContradiction fun capital => ?_
  rw [isKept, mapped?_capital (by omega) (by omega)] at h
  simp at h

theorem range_of_labelAllowed {label : List Nat} (h : labelAllowed label = true) :
    ∀ n ∈ label, n < 65 ∨ 90 < n := by
  intro n hn
  simp only [labelAllowed, Bool.and_eq_true, List.all_eq_true] at h
  exact range_of_isKept (h.1.1.2 n hn).1

theorem labelAllowed_of_label? {text label : List Nat} (h : label? text = some label) :
    labelAllowed label = true := by
  unfold label? at h
  split at h
  · split at h
    · rename_i allowed
      cases h
      exact allowed
    · cases h
  · split at h
    · cases h
    · split at h
      · cases h
      · split at h
        · rename_i allowed
          cases h
          exact (Bool.and_eq_true_iff.1 allowed).2
        · cases h

theorem asciiLabel?_lower {label : List Nat} {part : List Char}
    (allowed : labelAllowed label = true) (h : asciiLabel? label = some part) :
    ∀ c ∈ part, LowerAscii c.toNat := by
  have small := range_of_labelAllowed allowed
  unfold asciiLabel? at h
  split at h
  · rename_i low
    cases h
    intro c hc
    obtain ⟨n, hn, rfl⟩ := List.mem_map.1 hc
    exact LowerAscii.ofNat ⟨of_decide_eq_true (List.all_eq_true.1 low n hn), small n hn⟩
  · split at h
    · cases h
    · cases h
      have front : marker.all (fun c => decide (LowerAscii c.toNat)) = true := by decide
      intro c hc
      rcases List.mem_append.1 hc with marked | encoded
      · exact of_decide_eq_true (List.all_eq_true.1 front c marked)
      · exact Punycode.encode_lower small c encoded

theorem exists_of_mem_mapM {α β : Type} {f : α → Option β} {xs : List α} {ys : List β}
    (h : xs.mapM f = some ys) : ∀ y ∈ ys, ∃ x ∈ xs, f x = some y := by
  induction xs generalizing ys with
  | nil =>
    cases h
    intro y hy
    cases hy
  | cons x xs ih =>
    rw [List.mapM_cons] at h
    obtain ⟨y, first, h⟩ := Option.bind_eq_some_iff.1 h
    obtain ⟨rest, later, h⟩ := Option.bind_eq_some_iff.1 h
    cases h
    refine List.forall_mem_cons.2 ⟨⟨x, List.mem_cons_self, first⟩, fun z hz => ?_⟩
    obtain ⟨w, hw, found⟩ := ih later z hz
    exact ⟨w, List.mem_cons_of_mem _ hw, found⟩

/-- What a name is read as has ASCII characters only, and no capital letters. -/
theorem toAscii?_lower {name result : List Char} (h : toAscii? name = some result) :
    ∀ c ∈ result, LowerAscii c.toNat := by
  unfold toAscii? at h
  split at h
  · rename_i plain
    cases h
    intro c hc
    obtain ⟨x, hx, rfl⟩ := List.mem_map.1 hc
    have low := List.all_eq_true.1 (Bool.and_eq_true_iff.1 plain).1 x hx
    exact LowerAscii.lowerChar (of_decide_eq_true low)
  · unfold mappedName? at h
    obtain ⟨cs, -, h⟩ := Option.bind_eq_some_iff.1 h
    obtain ⟨labels, read, h⟩ := Option.bind_eq_some_iff.1 h
    split at h
    · cases h
    · obtain ⟨parts, joined, rfl⟩ := Option.map_eq_some_iff.1 h
      intro c hc
      rcases Url.mem_of_mem_intercalate hc with rfl | ⟨part, hp, hc⟩
      · decide
      · obtain ⟨label, hl, ascii⟩ := exists_of_mem_mapM joined part hp
        obtain ⟨text, -, allowed⟩ := exists_of_mem_mapM read label hl
        exact asciiLabel?_lower (labelAllowed_of_label? allowed) ascii c hc

end Idna

namespace Host

theorem ofBrackets_ne_domain {inner : Option (List Char)} {name : String} :
    ofBrackets inner ≠ .ok (.domain name) := by
  unfold ofBrackets
  split <;> intro h <;> cases h

theorem ofName_eq_domain {cs : List Char} {name : String} (h : ofName cs = .ok (.domain name)) :
    name.toList = cs ∧ cs ≠ [] ∧ ∀ c ∈ cs, isForbidden c = false := by
  unfold ofName at h
  split at h
  · cases h
  rename_i allowed
  split at h
  · cases h
  rename_i nonempty
  split at h
  · split at h <;> cases h
  cases h
  refine ⟨String.toList_ofList, fun empty => nonempty (by rw [empty]; rfl), fun c hc => ?_⟩
  rw [Bool.not_eq_true, List.any_eq_false] at allowed
  exact Bool.eq_false_iff.2 (allowed c hc)

theorem parse_eq_domain {s name : String} (h : parse s = .ok (.domain name)) :
    ∃ cs result, Idna.toAscii? cs = some result ∧ ofName result = .ok (.domain name) := by
  unfold parse at h
  split at h
  · exact absurd h ofBrackets_ne_domain
  split at h
  · cases h
  split at h
  · cases h
  rename_i result ascii
  exact ⟨_, result, ascii, h⟩

/-- A character that stays when blanks and brackets are taken off a host text. -/
def Bare (c : Char) : Prop := Text.Visible c ∧ c ≠ '[' ∧ c ≠ ']'

/-- The name of a host is a text of bare ASCII characters without colons. -/
theorem bare_of_parse {s name : String} (h : parse s = .ok (.domain name)) :
    name.toList ≠ [] ∧ ∀ c ∈ name.toList, Bare c ∧ c ≠ ':' := by
  obtain ⟨cs, result, ascii, h⟩ := parse_eq_domain h
  obtain ⟨shown, nonempty, allowed⟩ := ofName_eq_domain h
  rw [shown]
  refine ⟨nonempty, fun c hc => ?_⟩
  have low := (Idna.toAscii?_lower ascii c hc).1
  have other := allowed c hc
  have differs : ∀ x, isForbidden x = true → c ≠ x := by
    rintro x forbidden rfl
    rw [forbidden] at other
    cases other
  refine ⟨⟨⟨?_, ?_⟩, differs '[' (by decide), differs ']' (by decide)⟩, differs ':' (by decide)⟩
  · simp only [isForbidden, Bool.or_eq_false_iff, decide_eq_false_iff_not] at other
    omega
  · simp only [isForbidden, Bool.or_eq_false_iff, beq_eq_false_iff_ne] at other
    omega

/-- The name of a host without encoded labels is read as itself. -/
theorem parse_name {s name : String} (h : parse s = .ok (.domain name))
    (plain : Idna.isPlain name.toList = true) : parse name = .ok (.domain name) := by
  obtain ⟨nonempty, bare⟩ := bare_of_parse h
  obtain ⟨cs, result, ascii, h⟩ := parse_eq_domain h
  obtain ⟨shown, -, allowed⟩ := ofName_eq_domain h
  have lower := Idna.toAscii?_lower ascii
  rw [← shown] at h allowed lower
  have percent : '%' ∉ name.toList := by
    intro hp
    have refused := allowed '%' hp
    revert refused
    decide
  have bracket : '[' ∉ name.toList := fun hb => (bare '[' hb).1.2.1 rfl
  have same : name.toList.map Text.lowerChar = name.toList :=
    (List.map_congr_left fun c hc => Text.lowerChar_eq_self (lower c hc).2).trans (List.map_id _)
  have kept : Idna.toAscii? name.toList = some name.toList := by
    rw [Idna.toAscii?, if_pos plain, same]
  rw [parse_ascii (fun c hc => (lower c hc).1) percent (bracketed?_eq_none bracket) kept]
  exact h

end Host
end Net
end PluginFlow
