import Mathlib.Data.List.Sort
import PluginFlow.Proofs.Changes
import PluginFlow.Proofs.ShortestDecimal

/-!
Differences of two maps as they may be shown. A difference lists the keys that changed, each once
and in order, and of what stands under a hidden key it tells no more than whether it is there and
whether it changed.
-/

namespace PluginFlow

namespace Number

theorem ceiling_pos : 0 < ceiling := by decide +kernel

theorem signed_injective {s t : Bool} {u v : Nat} (h : signed s u = signed t v) :
    u = v ∧ (s = t ∨ u = 0) := by
  unfold signed at h
  cases s <;> cases t <;> simp only [Bool.false_eq_true, if_true, if_false] at h
  · exact ⟨by omega, .inl rfl⟩
  · exact ⟨by omega, .inr (by omega)⟩
  · exact ⟨by omega, .inr (by omega)⟩
  · exact ⟨by omega, .inl rfl⟩

/-- Only the two zeros are equal without being the same. -/
theorem eq_or_zeros_of_equals {a b : Number} (h : a.equals b = true) :
    a = b ∨ ∃ s t fits, a = .finite s 0 fits ∧ b = .finite t 0 fits := by
  obtain ⟨x, ha, hb⟩ := equals_iff.1 h
  cases a with
  | nan => cases ha
  | infinite s =>
    cases b with
    | nan => cases hb
    | infinite t =>
      obtain ⟨-, rfl | empty⟩ := signed_injective (Option.some.inj (ha.trans hb.symm))
      · exact .inl rfl
      · exact absurd empty (Nat.ne_of_gt ceiling_pos)
    | finite t v fits =>
      obtain ⟨past, -⟩ := signed_injective (Option.some.inj (ha.trans hb.symm))
      exact absurd fits.1 (Nat.not_lt.2 past.le)
  | finite s u fits =>
    cases b with
    | nan => cases hb
    | infinite t =>
      obtain ⟨past, -⟩ := signed_injective (Option.some.inj (ha.trans hb.symm))
      exact absurd fits.1 (Nat.not_lt.2 past.ge)
    | finite t v fits' =>
      obtain ⟨rfl, rfl | rfl⟩ := signed_injective (Option.some.inj (ha.trans hb.symm))
      · exact .inl rfl
      · exact .inr ⟨s, t, fits, rfl, rfl⟩

end Number

namespace Value

theorem agrees_symm {a b : Value} (h : a.agrees b = true) : b.agrees a = true := by
  cases a <;> cases b <;> simp_all [agrees]
  rwa [Number.equals_comm]

theorem agreesOptional_symm {a b : Option Value} (h : agreesOptional a b = true) :
    agreesOptional b a = true := by
  cases a <;> cases b <;> simp_all [agreesOptional]
  exact agrees_symm h

theorem Same.symm {a b : Option Value} (h : Same a b) : Same b a :=
  h.imp Eq.symm agreesOptional_symm

theorem numberText_zero (negative : Bool) (fits : Number.Representable 0) :
    numberText (.finite negative 0 fits) = Number.intText 0 := by
  have small : 0 < integerBound * Number.unit := Nat.mul_pos (by decide) Number.unit_pos
  have none : Number.signed negative 0 = 0 := by cases negative <;> rfl
  simp only [numberText, Number.isIntegral, Nat.zero_mod, beq_self_eq_true, small, decide_true,
    Bool.and_self, if_true, Number.truncate?, Nat.zero_div, none, Option.getD_some]

/-- Values that agree have one text. -/
theorem toText_eq_of_agrees {a b : Value} (h : a.agrees b = true) : a.toText = b.toText := by
  cases a <;> cases b <;> simp only [agrees, beq_iff_eq, Bool.false_eq_true] at h
  case null.null => rfl
  case bool.bool => rw [h]
  case text.text => rw [h]
  case number.number a b =>
    obtain rfl | ⟨s, t, fits, rfl, rfl⟩ := Number.eq_or_zeros_of_equals h
    · rfl
    · rw [toText, toText, numberText_zero, numberText_zero]

theorem Same.map_toText {a b : Option Value} (h : Same a b) :
    a.map toText = b.map toText := by
  rcases h with rfl | h
  · rfl
  · cases a <;> cases b <;> simp only [agreesOptional, Bool.false_eq_true] at h
    · rfl
    · exact congrArg some (toText_eq_of_agrees h)

/-- Whether two values agree does not depend on which of the same values they are. -/
theorem Same.agreesOptional_congr {a b a' b' : Option Value} (ha : Same a a') (hb : Same b b') :
    agreesOptional a b = agreesOptional a' b' := by
  have along {a b a' b' : Option Value} (ha : Same a a') (hb : Same b b')
      (h : agreesOptional a b = true) : agreesOptional a' b' = true := by
    have left : agreesOptional a' b = true := by
      rcases ha with rfl | ha
      · exact h
      · exact agreesOptional_trans (agreesOptional_symm ha) h
    rcases hb with rfl | hb
    · exact left
    · exact agreesOptional_trans left hb
  exact Bool.eq_iff_iff.2 ⟨along ha hb, along ha.symm hb.symm⟩

end Value

namespace Redactor

/-- What stands under a key is hidden: the key is registered, or one of the further keys, or
sensitive by its name. -/
def Hides (r : Redactor) (extra : List String) (key : String) : Prop :=
  key ∈ r.sensitiveKeys ∨ key ∈ extra ∨ NameSensitive key

/-- What is shown of a value under a key: the marker if it is hidden, else its text if that is short
enough, else so many of the first characters of it and the ellipsis. -/
inductive Shows (r : Redactor) (extra : List String) (key : String) (v : Value) : String → Prop
  | hidden (h : r.Hides extra key) : Shows r extra key v redacted
  | whole (h : ¬ r.Hides extra key) (short : v.toText.length ≤ r.maxValueLen) :
      Shows r extra key v v.toText
  | cut (h : ¬ r.Hides extra key) (kept rest : String) (parts : v.toText = kept ++ rest)
      (full : kept.length = r.maxValueLen) (long : rest ≠ "") :
      Shows r extra key v (kept.push ellipsis)

structure Tells (r : Redactor) (before after : KeyMap Value) (extra : List String)
    (changes : List FieldChange) : Prop where
  ascending : (changes.map (·.key)).Pairwise (· < ·)
  changed : ∀ key, key ∈ changes.map (·.key) ↔
    Value.agreesOptional (before.get? key) (after.get? key) = false
  held : ∀ ch ∈ changes,
    (ch.before.isSome ↔ ch.key ∈ before.keys) ∧ (ch.after.isSome ↔ ch.key ∈ after.keys)
  shown : ∀ ch ∈ changes,
    (∀ v ∈ before.get? ch.key, ∀ text ∈ ch.before, r.Shows extra ch.key v text) ∧
      ∀ v ∈ after.get? ch.key, ∀ text ∈ ch.after, r.Shows extra ch.key v text

/-- Two pairs of maps that are the same but for the values under hidden keys, which are there and
have changed in the one pair when they are there and have changed in the other. -/
structure Alike (r : Redactor) (extra : List String)
    (before after before' after' : KeyMap Value) : Prop where
  ordinary : ∀ key, ¬ r.Hides extra key →
    Value.Same (before.get? key) (before'.get? key) ∧
      Value.Same (after.get? key) (after'.get? key)
  held : ∀ key, r.Hides extra key →
    (key ∈ before.keys ↔ key ∈ before'.keys) ∧ (key ∈ after.keys ↔ key ∈ after'.keys)
  changed : ∀ key, r.Hides extra key →
    (Value.agreesOptional (before.get? key) (after.get? key) = false ↔
      Value.agreesOptional (before'.get? key) (after'.get? key) = false)

variable {r : Redactor} {before after before' after' : KeyMap Value} {extra : List String}

theorem hides_iff {key : String} :
    r.Hides extra key ↔ key ∈ extra ∨ r.isSensitive key = true := by
  rw [isSensitive_iff]
  exact or_left_comm

theorem redactWith_of_hides {key : String} (h : r.Hides extra key) (v : Value) :
    r.redactWith extra key v = redacted :=
  redactWith_of_sensitive (hides_iff.1 h) v

theorem redactWith_of_not_hides {key : String} (h : ¬ r.Hides extra key) (v : Value) :
    r.redactWith extra key v = r.truncate v.toText := by
  obtain ⟨unnamed, ordinary⟩ := not_or.1 (mt hides_iff.2 h)
  exact redactWith_of_ordinary unnamed ordinary v

/-- A text that is too long is cut between two of its characters. -/
theorem truncate_eq (r : Redactor) (text : String) :
    text.length ≤ r.maxValueLen ∧ r.truncate text = text ∨
      ∃ kept rest, text = kept ++ rest ∧ kept.length = r.maxValueLen ∧ rest ≠ "" ∧
        r.truncate text = kept.push ellipsis := by
  by_cases short : text.length ≤ r.maxValueLen
  · exact .inl ⟨short, if_pos (by rwa [String.length_toList])⟩
  · refine .inr ⟨.ofList (text.toList.take r.maxValueLen),
      .ofList (text.toList.drop r.maxValueLen), ?_, ?_, ?_, ?_⟩
    · rw [← String.ofList_append, List.take_append_drop, String.ofList_toList]
    · rw [String.length_ofList, List.length_take, String.length_toList]
      omega
    · intro none
      have left := congrArg String.length none
      rw [String.length_ofList, List.length_drop, String.length_toList, String.length_empty] at left
      omega
    · rw [truncate, if_neg (by rwa [String.length_toList])]
      apply String.toList_injective
      simp

theorem shows_redactWith (r : Redactor) (extra : List String) (key : String) (v : Value) :
    r.Shows extra key v (r.redactWith extra key v) := by
  by_cases h : r.Hides extra key
  · rw [redactWith_of_hides h]
    exact .hidden h
  · rw [redactWith_of_not_hides h]
    rcases r.truncate_eq v.toText with ⟨short, whole⟩ | ⟨kept, rest, parts, full, long, cut⟩
    · rw [whole]
      exact .whole h short
    · rw [cut]
      exact .cut h kept rest parts full long

theorem pairwise_mergeKeys {xs ys : List String} (hx : xs.Pairwise (· < ·))
    (hy : ys.Pairwise (· < ·)) : (mergeKeys xs ys).Pairwise (· < ·) := by
  fun_induction mergeKeys xs ys with
  | case1 ys => exact hy
  | case2 xs _ => exact hx
  | case3 x xs y ys below ih =>
    refine List.pairwise_cons.2 ⟨?_, ih hx.tail hy⟩
    intro z hz
    rcases mem_mergeKeys.1 hz with hz | hz
    · exact List.rel_of_pairwise_cons hx hz
    · rcases List.mem_cons.1 hz with rfl | hz
      · exact below
      · exact String.lt_trans below (List.rel_of_pairwise_cons hy hz)
  | case4 xs x ys _ ih =>
    refine List.pairwise_cons.2 ⟨?_, ih hx.tail hy.tail⟩
    intro z hz
    rcases mem_mergeKeys.1 hz with hz | hz
    · exact List.rel_of_pairwise_cons hx hz
    · exact List.rel_of_pairwise_cons hy hz
  | case5 x xs y ys notBelow apart ih =>
    have above : y < x :=
      String.not_le.1 fun le => apart (String.le_antisymm le (String.not_lt.1 notBelow))
    refine List.pairwise_cons.2 ⟨?_, ih hx hy.tail⟩
    intro z hz
    rcases mem_mergeKeys.1 hz with hz | hz
    · rcases List.mem_cons.1 hz with rfl | hz
      · exact above
      · exact String.lt_trans above (List.rel_of_pairwise_cons hx hz)
    · exact List.rel_of_pairwise_cons hy hz

theorem keys_diff (r : Redactor) (before after : KeyMap Value) (extra : List String) :
    (r.diff before after extra).map (·.key) =
      (mergeKeys before.keys after.keys).filter fun k =>
        !Value.agreesOptional (before.get? k) (after.get? k) := by
  simp only [diff, List.map_map, Function.comp_def, List.map_id']

theorem pairwise_keys_diff (r : Redactor) (before after : KeyMap Value) (extra : List String) :
    ((r.diff before after extra).map (·.key)).Pairwise (· < ·) := by
  rw [keys_diff]
  exact (pairwise_mergeKeys before.ordered after.ordered).filter _

theorem tells_diff (r : Redactor) (before after : KeyMap Value) (extra : List String) :
    r.Tells before after extra (r.diff before after extra) where
  ascending := r.pairwise_keys_diff before after extra
  changed _ := mem_keys_diff_iff
  held ch hch := by
    obtain ⟨hb, ha⟩ := mem_diff hch
    rw [hb, ha, Option.isSome_map, Option.isSome_map, KeyMap.mem_keys_iff, KeyMap.mem_keys_iff]
    exact ⟨Iff.rfl, Iff.rfl⟩
  shown ch hch := by
    have told : ∀ m : KeyMap Value, ∀ v ∈ m.get? ch.key,
        ∀ text ∈ (m.get? ch.key).map (r.redactWith extra ch.key),
          r.Shows extra ch.key v text := by
      intro m v hv text ht
      rw [Option.mem_def.1 hv] at ht
      cases ht
      exact r.shows_redactWith extra ch.key v
    obtain ⟨hb, ha⟩ := mem_diff hch
    rw [hb, ha]
    exact ⟨told before, told after⟩

/-- What is shown under a hidden key is the marker whatever the value is. -/
theorem map_redactWith_of_hides {key : String} (h : r.Hides extra key) {m m' : KeyMap Value}
    (held : key ∈ m.keys ↔ key ∈ m'.keys) :
    (m.get? key).map (r.redactWith extra key) = (m'.get? key).map (r.redactWith extra key) := by
  rw [KeyMap.mem_keys_iff, KeyMap.mem_keys_iff] at held
  rw [funext (redactWith_of_hides h)]
  cases hm : m.get? key <;> cases hm' : m'.get? key <;> simp_all

theorem map_redactWith_of_same {key : String} (h : ¬ r.Hides extra key) {a b : Option Value}
    (same : Value.Same a b) :
    a.map (r.redactWith extra key) = b.map (r.redactWith extra key) := by
  have cut (a : Option Value) :
      a.map (r.redactWith extra key) = (a.map Value.toText).map r.truncate := by
    rw [funext (redactWith_of_not_hides h), Option.map_map]
    rfl
  rw [cut, cut, same.map_toText]

namespace Alike

theorem agreesOptional_eq (h : r.Alike extra before after before' after') (key : String) :
    Value.agreesOptional (before.get? key) (after.get? key) =
      Value.agreesOptional (before'.get? key) (after'.get? key) := by
  by_cases hidden : r.Hides extra key
  · exact Bool.eq_iff_iff.2 (by simpa using not_congr (h.changed key hidden))
  · obtain ⟨hb, ha⟩ := h.ordinary key hidden
    exact hb.agreesOptional_congr ha

theorem shown_eq (h : r.Alike extra before after before' after') (key : String) :
    (before.get? key).map (r.redactWith extra key) =
        (before'.get? key).map (r.redactWith extra key) ∧
      (after.get? key).map (r.redactWith extra key) =
        (after'.get? key).map (r.redactWith extra key) := by
  by_cases hidden : r.Hides extra key
  · obtain ⟨hb, ha⟩ := h.held key hidden
    exact ⟨map_redactWith_of_hides hidden hb, map_redactWith_of_hides hidden ha⟩
  · obtain ⟨hb, ha⟩ := h.ordinary key hidden
    exact ⟨map_redactWith_of_same hidden hb, map_redactWith_of_same hidden ha⟩

theorem keys_eq (h : r.Alike extra before after before' after') :
    (r.diff before after extra).map (·.key) = (r.diff before' after' extra).map (·.key) := by
  apply (r.pairwise_keys_diff before after extra).eq_of_mem_iff
    (r.pairwise_keys_diff before' after' extra)
  intro key
  rw [mem_keys_diff_iff, mem_keys_diff_iff, h.agreesOptional_eq]

end Alike

/-- It makes no difference which values stand under one hidden key, as long as they agree in the one
pair when they agree in the other. -/
theorem alike_insert {key : String} (hidden : r.Hides extra key) {v w v' w' : Value}
    (changed : v.agrees w = v'.agrees w') :
    r.Alike extra (before.insert key v) (after.insert key w)
      (before.insert key v') (after.insert key w') where
  ordinary k ordinary := by
    have other : k ≠ key := fun same => ordinary (same ▸ hidden)
    simp only [KeyMap.get?_insert, if_neg other]
    exact ⟨.inl rfl, .inl rfl⟩
  held k _ := by
    simp only [KeyMap.mem_keys_iff, KeyMap.get?_insert]
    split <;> exact ⟨Iff.rfl, Iff.rfl⟩
  changed k _ := by
    simp only [KeyMap.get?_insert]
    split
    · simp only [Value.agreesOptional, changed]
    · exact Iff.rfl

/-- A difference is what is told at each of its keys. -/
theorem diff_eq_map_keys (r : Redactor) (before after : KeyMap Value) (extra : List String) :
    r.diff before after extra = ((r.diff before after extra).map (·.key)).map fun k =>
      { key := k, before := (before.get? k).map (r.redactWith extra k),
        after := (after.get? k).map (r.redactWith extra k) } := by
  rw [keys_diff]
  rfl

/-- A difference lists exactly the keys whose values do not agree, in order and each once, with a
text for each of the maps that has the key: the marker if the key is hidden, and else the text of
the value, cut. What stands under hidden keys makes no difference to it, as long as the same of them
are there and the same of them have changed. -/
theorem diff_tells_and_hides (r : Redactor) (before after : KeyMap Value) (extra : List String) :
    r.Tells before after extra (r.diff before after extra) ∧
      ∀ before' after', r.Alike extra before after before' after' →
        r.diff before after extra = r.diff before' after' extra := by
  refine ⟨r.tells_diff before after extra, ?_⟩
  intro before' after' alike
  rw [diff_eq_map_keys, diff_eq_map_keys r before', alike.keys_eq]
  refine List.map_congr_left fun key _ => ?_
  obtain ⟨hb, ha⟩ := alike.shown_eq key
  rw [hb, ha]

def answers (count : Nat) (body : String) : KeyMap Value :=
  (KeyMap.ofList [("count", .ofInt count)]).insert "lastCurlBody" (.text body)

/-- Two pairs of states with bodies of their own have the one difference. -/
theorem answers_hidden :
    (Redactor.mk 256 []).diff (answers 1 "a") (answers 2 "b") [] =
        (Redactor.mk 256 []).diff (answers 1 "longer") (answers 2 "") [] ∧
      (Redactor.mk 256 []).diff (answers 1 "a") (answers 2 "b") [] =
        [⟨"count", some "1", some "2"⟩, ⟨"lastCurlBody", some redacted, some redacted⟩] := by
  have hidden : (Redactor.mk 256 []).Hides [] "lastCurlBody" :=
    hides_iff.2 (.inr (by decide +kernel))
  exact ⟨(diff_tells_and_hides _ _ _ _).2 _ _ (alike_insert hidden (by decide)),
    by decide +kernel⟩

end Redactor
end PluginFlow
