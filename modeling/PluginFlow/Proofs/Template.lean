import Mathlib.Algebra.Order.BigOperators.Group.List
import Mathlib.Algebra.Order.Ring.Nat
import PluginFlow.Proofs.Digits
import PluginFlow.Template
import PluginFlow.Text.Base64

/-!
Cutting a text into segments loses nothing, and filling it reads the state at no key but those that
its placeholders name. Only a text can hold placeholders: the texts of all other values and those of
assets have no braces.
-/

namespace PluginFlow

namespace Template

theorem placeholder?_eq_some {s key : List Char} {n : Nat} (h : placeholder? s = some (key, n)) :
    ∃ inner, s = '\x7b' :: '\x7b' :: inner ∧ 2 ≤ n := by
  unfold placeholder? at h
  split at h
  · rename_i inner
    refine ⟨inner, rfl, ?_⟩
    dsimp only at h
    split at h
    · rename_i rest closing
      split at h
      · cases h
      · cases h
        have suffix := ((List.dropWhile_suffix Text.isBlank).trans
          (List.dropWhile_suffix isKeyChar)).trans
            (List.dropWhile_suffix Text.isBlank (l := inner))
        rw [closing] at suffix
        have shorter := suffix.length_le
        simp only [List.length_cons] at shorter ⊢
        omega
    · cases h
  · cases h

/-- The segments of a text put its characters back together. -/
theorem source_segmentsFrom (skip : Nat) (s : List Char) :
    (segmentsFrom skip s).flatMap Segment.source = s.drop skip := by
  fun_induction segmentsFrom skip s with
  | case1 => simp
  | case2 skip c rest ih => rw [ih, List.drop_succ_cons]
  | case3 c rest key length h ih =>
    obtain ⟨-, -, low⟩ := placeholder?_eq_some h
    obtain ⟨m, rfl⟩ : ∃ m, length = m + 1 := ⟨length - 1, by omega⟩
    rw [List.flatMap_cons, ih]
    exact List.take_append_drop (m + 1) (c :: rest)
  | case4 c rest h ih =>
    rw [List.flatMap_cons, ih]
    rfl

theorem source_segments (s : List Char) : (segments s).flatMap Segment.source = s :=
  source_segmentsFrom 0 s

/-- A hole stands where a placeholder begins. -/
theorem hole_mem_segmentsFrom {skip : Nat} {s source key : List Char}
    (h : .hole source key ∈ segmentsFrom skip s) :
    ∃ rest n, rest <:+ s ∧ placeholder? rest = some (key, n) ∧ source = rest.take n := by
  fun_induction segmentsFrom skip s with
  | case1 => cases h
  | case2 skip c rest ih =>
    obtain ⟨r, n, suffix, found, taken⟩ := ih h
    exact ⟨r, n, suffix.trans (List.suffix_cons c rest), found, taken⟩
  | case3 c rest key' length hp ih =>
    rcases List.mem_cons.1 h with here | later
    · cases here
      exact ⟨c :: rest, length, List.suffix_rfl, hp, rfl⟩
    · obtain ⟨r, n, suffix, found, taken⟩ := ih later
      exact ⟨r, n, suffix.trans (List.suffix_cons c rest), found, taken⟩
  | case4 c rest hp ih =>
    rcases List.mem_cons.1 h with here | later
    · cases here
    · obtain ⟨r, n, suffix, found, taken⟩ := ih later
      exact ⟨r, n, suffix.trans (List.suffix_cons c rest), found, taken⟩

theorem source_ne_nil {s : List Char} {segment : Segment} (h : segment ∈ segments s) :
    segment.source ≠ [] := by
  cases segment with
  | char c => exact List.cons_ne_nil c []
  | hole source key =>
    obtain ⟨rest, n, -, found, rfl⟩ := hole_mem_segmentsFrom h
    obtain ⟨inner, rfl, low⟩ := placeholder?_eq_some found
    obtain ⟨m, rfl⟩ : ∃ m, n = m + 1 := ⟨n - 1, by omega⟩
    exact List.cons_ne_nil _ _

namespace Segment

def stateKey? : Segment → Option String
  | .char _ => none
  | .hole _ key => some (stateKey key)

theorem fill_eq_source {segment : Segment} (h : segment.stateKey? = none) (state : KeyMap Value) :
    segment.fill state = segment.source := by
  cases segment with
  | char c => rfl
  | hole source key => cases h

theorem fill_congr {segment : Segment} {state state' : KeyMap Value}
    (h : ∀ key ∈ segment.stateKey?, state'.get? key = state.get? key) :
    segment.fill state' = segment.fill state := by
  cases segment with
  | char c => rfl
  | hole source key => rw [fill, fill, h _ rfl]

theorem fill_empty (segment : Segment) :
    segment.fill .empty = if segment.stateKey? = none then segment.source else [] := by
  cases segment <;> rfl

end Segment

def placeholders (s : String) : List String :=
  (segments s.toList).filterMap Segment.stateKey?

theorem placeholders_eq_nil_iff {s : String} :
    placeholders s = [] ↔ ∀ segment ∈ segments s.toList, segment.stateKey? = none := by
  rw [placeholders, List.filterMap_eq_nil_iff]

/-- A text without opening braces has no placeholders. -/
theorem placeholders_eq_nil {s : String} (h : '\x7b' ∉ s.toList) : placeholders s = [] := by
  rw [placeholders_eq_nil_iff]
  intro segment hs
  cases segment with
  | char c => rfl
  | hole source key =>
    obtain ⟨rest, n, suffix, found, -⟩ := hole_mem_segmentsFrom hs
    obtain ⟨inner, rfl, -⟩ := placeholder?_eq_some found
    exact absurd (suffix.subset List.mem_cons_self) h

/-- Filling reads the state at the keys of the placeholders only. -/
theorem render_congr {s : String} {state state' : KeyMap Value}
    (h : ∀ key ∈ placeholders s, state'.get? key = state.get? key) :
    render s state' = render s state := by
  have filled : ∀ segment ∈ segments s.toList, segment.fill state' = segment.fill state :=
    fun segment hs => Segment.fill_congr fun key hk => h key (List.mem_filterMap.2 ⟨segment, hs, hk⟩)
  rw [render_eq_fill, render_eq_fill, List.flatMap_congr filled]

/-- A text is left as it is by every state exactly when it has no placeholders. -/
theorem render_eq_self_iff {s : String} :
    (∀ state, render s state = s) ↔ placeholders s = [] := by
  rw [placeholders_eq_nil_iff]
  constructor
  · intro same
    by_contra! holes
    obtain ⟨segment, hs, hole⟩ := holes
    -- The empty state leaves nothing of a hole, so the text gets shorter.
    have shorter : ((segments s.toList).map fun x => (x.fill .empty).length).sum <
        ((segments s.toList).map fun x => x.source.length).sum := by
      apply List.sum_lt_sum
      · intro x _
        rw [Segment.fill_empty]
        split <;> simp
      · refine ⟨segment, hs, ?_⟩
        rw [Segment.fill_empty, if_neg hole]
        exact List.length_pos_of_ne_nil (source_ne_nil hs)
    have kept : (segments s.toList).flatMap (Segment.fill .empty) =
        (segments s.toList).flatMap Segment.source := by
      rw [source_segments, ← String.ofList_inj, String.ofList_toList, ← render_eq_fill]
      exact same .empty
    have lengths := congrArg List.length kept
    rw [List.length_flatMap, List.length_flatMap] at lengths
    omega
  · intro literal state
    have filled : ∀ segment ∈ segments s.toList, segment.fill state = segment.source :=
      fun segment hs => Segment.fill_eq_source (literal segment hs) state
    rw [render_eq_fill, List.flatMap_congr filled, source_segments, String.ofList_toList]

end Template

/-! ### Texts without braces -/

namespace Text.Base64

theorem letter_mem (n : Nat) : letter n ∈ alphabet := by
  have low : n % 64 < alphabet.length := Nat.mod_lt n (by decide)
  rw [letter, List.getD_eq_getElem?_getD, List.getElem?_eq_getElem low, Option.getD_some]
  exact List.getElem_mem low

end Text.Base64

namespace Number

/-- A decimal without an exponent is written in digits and at most one point. -/
theorem mem_positional {d : Decimal} {marksWhole : Bool} {c : Char}
    (h : c ∈ d.positional marksWhole) : c.isDigit ∨ c = '.' := by
  have zero : ∀ {k : Nat}, c ∈ List.replicate k '0' → c.isDigit := by
    intro k hk
    rw [List.eq_of_mem_replicate hk]
    decide
  unfold Decimal.positional at h
  dsimp only at h
  split at h
  · rcases List.mem_append.1 h with digits | mark
    · rcases List.mem_append.1 digits with digit | padding
      · exact .inl (isDigit_of_mem_natDigits digit)
      · exact .inl (zero padding)
    · split at mark
      · rcases List.mem_pair.1 mark with rfl | rfl
        · exact .inr rfl
        · exact .inl (by decide)
      · cases mark
  · have padded : ∀ {k : Nat}, c ∈ List.replicate k '0' ++ natDigits d.digits → c.isDigit := by
      intro k hk
      exact (List.mem_append.1 hk).elim zero isDigit_of_mem_natDigits
    rcases List.mem_append.1 h with before | rest
    · exact .inl (padded (List.mem_of_mem_take before))
    · rcases List.mem_cons.1 rest with point | after
      · exact .inr point
      · exact .inl (padded (List.mem_of_mem_drop after))

theorem brace_not_mem_intText (i : Int) : '\x7b' ∉ (intText i).toList := by
  rw [intText, String.toList_ofList, List.mem_append]
  rintro (sign | digit)
  · split at sign <;> simp at sign
  · exact absurd (isDigit_of_mem_natDigits digit) (by decide)

theorem brace_not_mem_plainText (n : Number) : '\x7b' ∉ n.plainText.toList := by
  cases n with
  | nan => decide
  | infinite negative => cases negative <;> decide
  | finite negative units bound =>
    have body : ∀ d : Decimal, '\x7b' ∉ Layout.plain.decimalText d := by
      intro d h
      rcases mem_positional h with digit | point
      · exact absurd digit (by decide)
      · cases point
    rw [plainText, write, String.toList_ofList, List.mem_append]
    rintro (sign | shown)
    · split at sign <;> simp at sign
    · split at shown
      · exact body _ shown
      · exact body _ shown

end Number

namespace Value

theorem brace_not_mem_numberText (n : Number) : '\x7b' ∉ (numberText n).toList := by
  unfold numberText
  split
  · split
    · exact Number.brace_not_mem_intText _
    · exact Number.brace_not_mem_plainText _
  · exact Number.brace_not_mem_plainText _

def placeholders (v : Value) : List String := Template.placeholders v.toText

theorem placeholders_eq_nil {v : Value} (h : v.asText? = none) : v.placeholders = [] := by
  apply Template.placeholders_eq_nil
  cases v with
  | null => decide
  | bool b => cases b <;> decide
  | number n => exact brace_not_mem_numberText n
  | text s => cases h

end Value
end PluginFlow
