import PluginFlow.Net.Policy
import PluginFlow.Proofs.Outcome

/-!
Trimming, and the texts of URLs that are let through: these begin with their scheme and end with
visible characters, so there is nothing to trim from them.
-/

namespace PluginFlow

namespace Text

variable {α : Type} {p : α → Bool} {xs : List α}

theorem dropWhile_eq_self (first : ∀ x ∈ xs.head?, p x = false) : xs.dropWhile p = xs := by
  cases xs with
  | nil => rfl
  | cons x xs => rw [List.dropWhile_cons_of_neg (by simp [first x rfl])]

theorem of_mem_head?_dropWhile {x : α} (h : x ∈ (xs.dropWhile p).head?) : p x = false := by
  have hn := List.head?_dropWhile_not p xs
  rw [Option.mem_def.1 h] at hn
  exact hn

theorem stripBoth_eq_self (first : ∀ x ∈ xs.head?, p x = false)
    (last : ∀ x ∈ xs.getLast?, p x = false) : stripBoth p xs = xs := by
  rw [stripBoth, dropWhile_eq_self first, dropWhile_eq_self, List.reverse_reverse]
  rwa [List.head?_reverse]

theorem stripBoth_isPrefix (p : α → Bool) (xs : List α) : stripBoth p xs <+: xs.dropWhile p := by
  rw [stripBoth, ← List.reverse_suffix, List.reverse_reverse]
  exact List.dropWhile_suffix p

/-- What is stripped at both ends has nothing left to strip. -/
theorem stripBoth_stripBoth (p : α → Bool) (xs : List α) :
    stripBoth p (stripBoth p xs) = stripBoth p xs := by
  apply stripBoth_eq_self
  · intro x hx
    obtain ⟨rest, hr⟩ := stripBoth_isPrefix p xs
    have hd : x ∈ (xs.dropWhile p).head? := by
      rw [← hr, List.head?_append, Option.mem_def.1 hx]
      rfl
    exact of_mem_head?_dropWhile hd
  · intro x hx
    rw [stripBoth, List.getLast?_reverse] at hx
    exact of_mem_head?_dropWhile hx

theorem trim_trim (s : String) : trim (trim s) = trim s := by
  rw [trim, trim, String.toList_ofList, stripBoth_stripBoth]

theorem trim_of_ends {s : String} (first : ∀ c ∈ s.toList.head?, isBlank c = false)
    (last : ∀ c ∈ s.toList.getLast?, isBlank c = false) : trim s = s := by
  rw [trim, stripBoth_eq_self first last, String.ofList_toList]

def Visible (c : Char) : Prop := 0x20 < c.toNat ∧ c.toNat < 0x7F

instance (c : Char) : Decidable (Visible c) := inferInstanceAs (Decidable (_ ∧ _))

theorem Visible.not_blank {c : Char} (h : Visible c) : isBlank c = false := by
  obtain ⟨low, high⟩ := h
  simp only [isBlank, Bool.or_eq_false_iff, Bool.and_eq_false_iff, beq_eq_false_iff_ne,
    decide_eq_false_iff_not]
  omega

/-- A text between visible ends stays when it is trimmed. -/
theorem trim_eq_self {s : String} (first : ∀ c ∈ s.toList.head?, Visible c)
    (last : ∀ c ∈ s.toList.getLast?, Visible c) : trim s = s :=
  trim_of_ends (fun c hc => (first c hc).not_blank) fun c hc => (last c hc).not_blank

end Text

namespace Net

theorem checkHost_trim (s : String) : checkHost (Text.trim s) = checkHost s := by
  rw [checkHost, checkHost, bareHost, bareHost, Text.trim_trim]

namespace Url

open Text (Visible)

theorem visible_of_mem_percentByte {b : UInt8} {c : Char} (h : c ∈ percentByte b) : Visible c := by
  have hd : ∀ n, Text.hexDigit n ∈ Text.hexDigits := by
    intro n
    unfold Text.hexDigit
    rw [List.getD_eq_getElem?_getD]
    cases hn : Text.hexDigits[n]? with
    | none => decide
    | some d => exact List.mem_of_getElem? hn
  have hv : ∀ n, Visible (if 'a' ≤ Text.hexDigit n then Char.ofNat ((Text.hexDigit n).toNat - 32)
      else Text.hexDigit n) := by
    have ha : Text.hexDigits.all fun d =>
        decide (Visible (if 'a' ≤ d then Char.ofNat (d.toNat - 32) else d)) := by decide
    intro n
    exact of_decide_eq_true (List.all_eq_true.1 ha _ (hd n))
  simp only [percentByte, Text.hexByte, List.map_cons, List.map_nil, List.mem_cons,
    List.not_mem_nil, or_false] at h
  rcases h with rfl | rfl | rfl
  · decide
  · exact hv _
  · exact hv _

/-- Where blanks must not stand, only visible characters are written. -/
theorem visible_of_mem_percentEncode {special : String} (hs : ' ' ∈ special.toList)
    {cs : List Char} {c : Char} (h : c ∈ (percentEncode special cs).toList) : Visible c := by
  rw [percentEncode, String.toList_ofList, List.mem_flatMap] at h
  obtain ⟨d, -, h⟩ := h
  split at h
  · obtain ⟨b, -, h⟩ := List.mem_flatMap.1 h
    exact visible_of_mem_percentByte h
  · rename_i hd
    cases List.mem_singleton.1 h
    simp only [Bool.or_eq_true, decide_eq_true_eq, List.contains_iff_mem, not_or] at hd
    obtain ⟨⟨low, high⟩, ordinary⟩ := hd
    have hb : c.toNat ≠ 0x20 := by
      intro hc
      have hc : c = ' ' := Char.toNat_inj.1 hc
      exact ordinary (hc ▸ hs)
    exact ⟨by omega, by omega⟩

theorem visible_of_mem_followDots {done : List String} {segments : List (List Char)}
    (hd : ∀ s ∈ done, ∀ c ∈ s.toList, Visible c) {s : String}
    (hs : s ∈ followDots done segments) {c : Char} (hc : c ∈ s.toList) : Visible c := by
  induction segments generalizing done with
  | nil => exact hd s hs c hc
  | cons segment rest ih =>
    have he : ∀ s ∈ (if rest.isEmpty then [""] else []), ∀ c ∈ s.toList, Visible c := by
      intro s hs c hc
      split at hs
      · cases List.mem_singleton.1 hs
        cases hc
      · cases hs
    simp only [followDots] at hs
    split at hs
    · refine ih ?_ hs
      intro s hs
      rcases List.mem_append.1 hs with hs | hs
      · exact hd s (List.dropLast_subset _ hs)
      · exact he s hs
    · split at hs
      · refine ih ?_ hs
        intro s hs
        rcases List.mem_append.1 hs with hs | hs
        · exact hd s hs
        · exact he s hs
      · refine ih ?_ hs
        intro s hs
        rcases List.mem_append.1 hs with hs | hs
        · exact hd s hs
        · cases List.mem_singleton.1 hs
          exact fun c => visible_of_mem_percentEncode (by decide)

theorem mem_of_mem_intercalate {separator c : Char} {parts : List (List Char)}
    (h : c ∈ [separator].intercalate parts) : c = separator ∨ ∃ part ∈ parts, c ∈ part := by
  induction parts with
  | nil => cases h
  | cons part parts ih =>
    cases parts with
    | nil =>
      rw [List.intercalate_singleton] at h
      exact .inr ⟨part, List.mem_cons_self, h⟩
    | cons next parts =>
      rw [List.intercalate_cons_cons, List.mem_append, List.mem_append] at h
      rcases h with (h | h) | h
      · exact .inr ⟨part, List.mem_cons_self, h⟩
      · exact .inl (List.mem_singleton.1 h)
      · rcases ih h with h | ⟨p, hp, h⟩
        · exact .inl h
        · exact .inr ⟨p, List.mem_cons_of_mem _ hp, h⟩

/-- The path of a URL of a common scheme starts with a slash and shows throughout. -/
theorem pathText_visible (cs : List Char) :
    ∃ rest, (pathText true cs).toList = '/' :: rest ∧ ∀ c ∈ rest, Visible c := by
  cases cs with
  | nil =>
    refine ⟨[], rfl, ?_⟩
    intro c hc
    cases hc
  | cons c cs =>
    simp only [pathText, String.toList_append, String.toList_intercalate]
    refine ⟨_, rfl, ?_⟩
    intro d hd
    rcases mem_of_mem_intercalate hd with rfl | ⟨part, hp, hd⟩
    · decide
    · obtain ⟨s, hs, rfl⟩ := List.mem_map.1 hp
      refine visible_of_mem_followDots ?_ hs hd
      intro s hs
      cases hs

def ending (u : Url) : List Char :=
  u.path.toList ++ ((u.query.map ("?" ++ ·)).getD "").toList ++
    ((u.fragment.map ("#" ++ ·)).getD "").toList

theorem visible_of_mem_marked {m : Char} {mark : String} {part : Option String}
    (one : mark.toList = [m]) (hm : Visible m) (hp : ∀ s ∈ part, ∀ c ∈ s.toList, Visible c)
    {c : Char} (h : c ∈ ((part.map (mark ++ ·)).getD "").toList) : Visible c := by
  cases part with
  | none => cases h
  | some s =>
    rw [Option.map_some, Option.getD_some, String.toList_append, List.mem_append] at h
    rcases h with h | h
    · rw [one] at h
      exact List.mem_singleton.1 h ▸ hm
    · exact hp s rfl c h

theorem ending_visible (u : Url) (cs : List Char) :
    ∃ rest, (u.withRest true (pathText true) cs).ending = '/' :: rest ∧ ∀ c ∈ rest, Visible c := by
  obtain ⟨path, hp, hv⟩ := pathText_visible ((cs.takeWhile (· ≠ '#')).takeWhile (· ≠ '?'))
  simp only [ending, withRest, hp, List.cons_append]
  refine ⟨_, rfl, ?_⟩
  intro c hc
  rw [List.mem_append, List.mem_append] at hc
  rcases hc with (hc | hc) | hc
  · exact hv c hc
  · refine visible_of_mem_marked rfl (by decide) ?_ hc
    intro s hs
    split at hs
    · cases hs
      exact fun c => visible_of_mem_percentEncode (by decide)
    · cases hs
  · refine visible_of_mem_marked rfl (by decide) ?_ hc
    intro s hs
    split at hs
    · cases hs
      exact fun c => visible_of_mem_percentEncode (by decide)
    · cases hs

/-- What stands behind a host is a path of the kind that belongs to the scheme, and with a common
scheme there is a host that was read as one. -/
theorem authority_eq_ok {scheme : String} {cs : List Char} {u : Url}
    (h : authority scheme cs = .ok u) :
    ∃ u' rest, u'.scheme = scheme ∧
      u = withRest u' (defaultPort? scheme).isSome (pathText (defaultPort? scheme).isSome)
        rest ∧
      ((defaultPort? scheme).isSome = true →
        ∃ text host, u'.host = some host ∧ Host.parse text = .ok host) := by
  -- A step that gives something up hands nothing on, so only what follows each step matters.
  unfold authority at h
  extract_lets isSpecial part after fromUser at h
  have hx : ∃ x, fromUser x = .ok u := by
    split at h
    · obtain ⟨x, -, h⟩ := Outcome.bind_eq_ok_iff.1 h
      exact ⟨x, h⟩
    · split at h
      · obtain ⟨x, -, h⟩ := Outcome.bind_eq_ok_iff.1 h
        exact ⟨x, h⟩
      · obtain ⟨x, -, h⟩ := Outcome.bind_eq_ok_iff.1 h
        exact ⟨x, h⟩
  obtain ⟨⟨user, hostPart⟩, hx⟩ := hx
  dsimp -zeta only [fromUser] at hx
  extract_lets name fromHost fromText at hx
  have hy : fromText () = .ok u ∧
      (isSpecial = true → (takeHost false hostPart).1.isEmpty = false) := by
    split at hx
    · obtain ⟨_, thrown, hx⟩ := Outcome.bind_eq_ok_iff.1 hx
      cases thrown
    · rename_i shown
      refine ⟨hx, fun special => ?_⟩
      simpa [special] using shown
  dsimp -zeta only [fromText] at hy
  obtain ⟨hy, shown⟩ := hy
  have hz : ∃ host, fromHost host = .ok u ∧
      (isSpecial = true → ∃ text, Host.parse text = .ok host) := by
    split at hy
    · obtain ⟨host, read, hy⟩ := Outcome.bind_eq_ok_iff.1 hy
      exact ⟨host, hy, fun _ => ⟨_, read⟩⟩
    · rename_i special
      obtain ⟨host, -, hy⟩ := Outcome.bind_eq_ok_iff.1 hy
      exact ⟨host, hy, fun h => absurd h special⟩
  obtain ⟨host, hz, read⟩ := hz
  dsimp -zeta only [fromHost] at hz
  extract_lets fromPort at hz
  have hw : ∃ port, fromPort port = .ok u := by
    split at hz
    · obtain ⟨port, -, hz⟩ := Outcome.bind_eq_ok_iff.1 hz
      exact ⟨port, hz⟩
    · obtain ⟨port, -, hz⟩ := Outcome.bind_eq_ok_iff.1 hz
      exact ⟨port, hz⟩
  obtain ⟨⟨port, rest⟩, hw⟩ := hw
  dsimp -zeta only [fromPort] at hw
  extract_lets u' done at hw
  have hd : done () = .ok u := by
    split at hw
    · obtain ⟨_, -, hw⟩ := Outcome.bind_eq_ok_iff.1 hw
      exact hw
    · exact hw
  refine ⟨u', rest, rfl, (Except.ok.inj hd).symm, fun special => ?_⟩
  obtain ⟨text, read⟩ := read special
  exact ⟨text, host, if_neg (by simp [shown special]), read⟩

theorem scheme_of_authority {scheme : String} {cs : List Char} {u : Url}
    (h : authority scheme cs = .ok u) : u.scheme = scheme := by
  obtain ⟨u', rest, hs, rfl, -⟩ := authority_eq_ok h
  exact hs

theorem scheme_of_fileUrl {cs : List Char} {u : Url} (h : fileUrl cs = .ok u) :
    u.scheme = "file" := by
  unfold fileUrl at h
  extract_lets u' at h
  split at h
  · split at h
    · extract_lets hostText at h
      split at h
      · cases h
        rfl
      · obtain ⟨host, -, h⟩ := Outcome.bind_eq_ok_iff.1 h
        cases h
        rfl
    · cases h
      rfl
  · cases h
    rfl

theorem scheme_of_otherUrl {scheme : String} {cs : List Char} {u : Url}
    (h : otherUrl scheme cs = .ok u) : u.scheme = scheme := by
  unfold otherUrl at h
  extract_lets u' at h
  split at h
  · exact scheme_of_authority h
  · cases h
    rfl
  · cases h
    rfl

/-- A URL of a common scheme has a host that was read as one and ends in a path of its kind. -/
theorem parse_eq_ok {s : String} {u : Url} (h : parse s = .ok u)
    (special : (defaultPort? u.scheme).isSome = true) :
    (∃ u' rest, u = withRest u' true (pathText true) rest) ∧
      ∃ text host, u.host = some host ∧ Host.parse text = .ok host := by
  unfold parse at h
  split at h
  · cases h
  · split at h
    · rw [scheme_of_fileUrl h] at special
      cases special
    · split at h
      · rename_i hs
        obtain ⟨u', rest, -, hu, host⟩ := authority_eq_ok h
        rw [hs] at hu
        refine ⟨⟨u', rest, hu⟩, ?_⟩
        rw [hu]
        exact host hs
      · rename_i hs
        rw [scheme_of_otherUrl h] at special
        exact absurd special hs

theorem toList_text (u : Url) :
    ∃ front, u.text.toList = u.scheme.toList ++ (front ++ u.ending) := by
  unfold text ending
  extract_lets authority
  refine ⟨":".toList ++ authority.toList, ?_⟩
  simp only [String.toList_append, List.append_assoc]

/-- The text of a URL that is read with the scheme that is let through has nothing to trim. -/
theorem trim_text {s : String} {u : Url} (h : parse s = .ok u) (https : u.scheme = "https") :
    Text.trim u.text = u.text := by
  have special : (defaultPort? u.scheme).isSome = true := by rw [https]; rfl
  obtain ⟨⟨u', cs, rfl⟩, -⟩ := parse_eq_ok h special
  obtain ⟨rest, he, hv⟩ := ending_visible u' cs
  obtain ⟨front, ht⟩ := toList_text (withRest u' true (pathText true) cs)
  rw [https, he, ← List.append_assoc] at ht
  apply Text.trim_eq_self
  · intro c hc
    rw [ht] at hc
    cases hc
    decide
  · intro c hc
    have hl : ('/' :: rest).getLast? = some c := by
      rw [ht, List.getLast?_append, List.getLast?_cons] at hc
      rw [List.getLast?_cons]
      exact hc
    rcases List.mem_cons.1 (List.mem_of_getLast? hl) with rfl | hc
    · decide
    · exact hv c hc

end Url
end Net
end PluginFlow
