import PluginFlow.Proofs.TemplateCut

/-!
Texts that are rendered twice. Values without braces bring no placeholder with them, but one may
close around them: the braces that were literal on both sides of a placeholder come to stand around
what it was filled with. Only then does the second rendering change the text.
-/

namespace PluginFlow

/-- No value of a state has a brace in its text. -/
def Braceless (state : KeyMap Value) : Prop :=
  ∀ key v, state.get? key = some v → ∀ c ∈ v.toText.toList, c ≠ '\x7b' ∧ c ≠ '\x7d'

namespace Template

def Segment.IsHole (segment : Segment) : Prop := segment.stateKey? ≠ none

/-- Between two literal braces stands a placeholder, and what is between them is filled so that they
are the ends of a placeholder. -/
def Reopens (state : KeyMap Value) (parts : List Segment) : Prop :=
  ∃ before inner after,
    parts = before ++ .char '\x7b' :: (inner ++ .char '\x7d' :: after) ∧
      (∃ hole ∈ inner, hole.IsHole) ∧
      ∃ name, Frames ('\x7b' :: (inner.flatMap (·.fill state) ++ ['\x7d'])) name

variable {state : KeyMap Value}

/-- Only a literal brace is filled with one. -/
theorem Segment.eq_char_of_mem_fill (braceless : Braceless state) {segment : Segment} {c : Char}
    (brace : c = '\x7b' ∨ c = '\x7d') (h : c ∈ segment.fill state) : segment = .char c := by
  cases segment with
  | char d => rw [List.mem_singleton.1 h]
  | hole source name =>
    cases held : state.get? (stateKey name) with
    | none =>
      rw [Segment.fill, held] at h
      cases h
    | some v =>
      rw [Segment.fill, held] at h
      obtain ⟨opening, closing⟩ := braceless _ v held c h
      rcases brace with rfl | rfl
      · exact absurd rfl opening
      · exact absurd rfl closing

/-- A brace in a filled text splits the parts that it is filled from. -/
theorem exists_split_of_fill (braceless : Braceless state) {c : Char}
    (brace : c = '\x7b' ∨ c = '\x7d') {parts : List Segment} {xs ys : List Char}
    (h : parts.flatMap (·.fill state) = xs ++ c :: ys) :
    ∃ before after, parts = before ++ .char c :: after ∧
      before.flatMap (·.fill state) = xs ∧ after.flatMap (·.fill state) = ys := by
  induction parts generalizing xs with
  | nil => exact absurd h.symm (by simp)
  | cons segment parts ih =>
    rw [List.flatMap_cons] at h
    cases segment with
    | char d =>
      cases xs with
      | nil =>
        obtain ⟨rfl, rfl⟩ := List.cons.inj h
        exact ⟨[], parts, rfl, rfl, rfl⟩
      | cons x xs =>
        obtain ⟨rfl, onward⟩ := List.cons.inj h
        obtain ⟨before, after, rfl, rfl, rfl⟩ := ih onward
        exact ⟨.char d :: before, after, rfl, rfl, rfl⟩
    | hole source name =>
      have absent : c ∉ Segment.fill state (.hole source name) := by
        intro mem
        cases Segment.eq_char_of_mem_fill braceless brace mem
      rcases List.append_eq_append_iff.1 h with ⟨zs, rfl, onward⟩ | ⟨zs, filled, onward⟩
      · obtain ⟨before, after, rfl, rfl, rfl⟩ := ih onward
        exact ⟨.hole source name :: before, after, rfl, List.flatMap_cons, rfl⟩
      · cases zs with
        | nil =>
          rw [List.append_nil] at filled
          have here : parts.flatMap (·.fill state) = [] ++ c :: ys := onward.symm
          obtain ⟨before, after, rfl, empty, rfl⟩ := ih here
          refine ⟨.hole source name :: before, after, rfl, ?_, rfl⟩
          rw [List.flatMap_cons, empty, filled, List.append_nil]
        | cons d zs =>
          obtain ⟨rfl, -⟩ := List.cons.inj onward
          rw [filled] at absent
          exact absurd (List.mem_append_right _ List.mem_cons_self) absent

/-- What is behind a part of a cut is cut by itself. -/
theorem segments_source_of_append {s : List Char} {before rest : List Segment}
    (h : segments s = before ++ rest) : segments (rest.flatMap Segment.source) = rest := by
  induction before generalizing s with
  | nil => rw [← List.nil_append rest, ← h, source_segments, h]
  | cons segment before ih =>
    by_cases begins : Begins s
    · obtain ⟨source, name, tail, frames, rfl⟩ := begins
      rw [frames.segments_append] at h
      exact ih (List.cons.inj h).2
    · cases s with
      | nil => cases h
      | cons c s =>
        rw [segments_cons_of_not_begins begins] at h
        exact ih (List.cons.inj h).2

theorem source_eq_fill_of_literal {parts : List Segment} (literal : ∀ x ∈ parts, ¬ x.IsHole)
    (state : KeyMap Value) : parts.flatMap Segment.source = parts.flatMap (·.fill state) :=
  List.flatMap_congr fun x hx => (Segment.fill_eq_source (not_not.1 (literal x hx)) state).symm

/-- No placeholder is made of literal characters alone: it would have been cut out. -/
theorem exists_hole_of_frames {s : List Char} {before inner after : List Segment} {name : List Char}
    (h : segments s = before ++ .char '\x7b' :: (inner ++ .char '\x7d' :: after))
    (frames : Frames ('\x7b' :: (inner.flatMap (·.fill state) ++ ['\x7d'])) name) :
    ∃ hole ∈ inner, hole.IsHole := by
  by_contra! literal
  have cut := segments_source_of_append h
  rw [List.flatMap_cons, List.flatMap_append, List.flatMap_cons,
    source_eq_fill_of_literal literal state] at cut
  have found := frames.segments_append (after.flatMap Segment.source)
  simp only [List.cons_append, List.append_assoc, List.nil_append] at found
  simp only [Segment.source, List.cons_append, List.nil_append] at cut
  rw [cut] at found
  cases (List.cons.inj found).1

/-- A placeholder begins and ends with a brace. -/
theorem Frames.exists_inner {source name : List Char} (frames : Frames source name) :
    ∃ inner, source = '\x7b' :: (inner ++ ['\x7d']) := by
  cases frames with
  | @intro before _ after =>
    exact ⟨'\x7b' :: (before ++ (name ++ (after ++ ['\x7d']))), by simp⟩

/-- A filled text has a placeholder exactly when one has closed around what was filled in. -/
theorem bare_fill_iff (braceless : Braceless state) (s : List Char) :
    Bare ((segments s).flatMap (·.fill state)) ↔ ¬ Reopens state (segments s) := by
  constructor
  · rintro bare ⟨before, inner, after, parts, -, name, frames⟩
    refine bare _ ⟨before.flatMap (·.fill state), ?_⟩
      ⟨_, name, after.flatMap (·.fill state), frames, rfl⟩
    rw [parts]
    simp [Segment.fill]
  · intro closed t ht begins
    obtain ⟨before, ht⟩ := ht
    obtain ⟨source, name, rest, frames, rfl⟩ := begins
    obtain ⟨inner, rfl⟩ := frames.exists_inner
    have whole : (segments s).flatMap (·.fill state) =
        before ++ '\x7b' :: (inner ++ '\x7d' :: rest) := by
      rw [← ht]
      simp
    obtain ⟨first, later, parts, -, filled⟩ := exists_split_of_fill braceless (.inl rfl) whole
    obtain ⟨middle, last, rfl, rfl, -⟩ := exists_split_of_fill braceless (.inr rfl) filled
    exact closed ⟨first, middle, last, parts, exists_hole_of_frames parts frames, name, frames⟩

/-- What rendering makes of a text, by its characters. -/
theorem toList_render (input : String) (state : KeyMap Value) :
    (render input state).toList = (segments input.toList).flatMap (·.fill state) := by
  rw [render_eq_fill, String.toList_ofList]

theorem Bare.render_eq {s : String} (bare : Bare s.toList) (state : KeyMap Value) :
    render s state = s := by
  apply String.toList_injective
  rw [toList_render, bare.segments_eq, List.flatMap_map]
  exact List.flatMap_singleton' s.toList

theorem opening_mem_source {s source name : List Char} (h : .hole source name ∈ segments s) :
    '\x7b' ∈ source := by
  obtain ⟨rest, n, -, found, rfl⟩ := hole_mem_segmentsFrom h
  obtain ⟨inner, rfl, low⟩ := placeholder?_eq_some found
  obtain ⟨m, rfl⟩ : ∃ m, n = m + 1 := ⟨n - 1, by omega⟩
  exact List.mem_cons_self

theorem opening_not_mem_fill (braceless : Braceless state) (source name : List Char) :
    '\x7b' ∉ Segment.fill state (.hole source name) := by
  intro mem
  cases Segment.eq_char_of_mem_fill braceless (.inl rfl) mem

/-- Each placeholder that is filled takes opening braces away, and none come back. -/
theorem count_fill_lt (braceless : Braceless state) {s : List Char} {hole : Segment}
    (mem : hole ∈ segments s) (filled : hole.IsHole) :
    ((segments s).flatMap (·.fill state)).count '\x7b' < s.count '\x7b' := by
  have part : ∀ x ∈ segments s, (x.fill state).count '\x7b' ≤ x.source.count '\x7b' ∧
      (x.IsHole → (x.fill state).count '\x7b' < x.source.count '\x7b') := by
    intro x hx
    cases x with
    | char c => exact ⟨Nat.le_refl _, fun h => absurd rfl h⟩
    | hole source name =>
      rw [List.count_eq_zero.2 (opening_not_mem_fill braceless source name)]
      exact ⟨Nat.zero_le _, fun _ => List.count_pos_iff.2 (opening_mem_source hx)⟩
  calc ((segments s).flatMap (·.fill state)).count '\x7b'
      = ((segments s).map fun x => (x.fill state).count '\x7b').sum := List.count_flatMap
    _ < ((segments s).map fun x => x.source.count '\x7b').sum :=
        List.sum_lt_sum _ _ (fun x hx => (part x hx).1) ⟨hole, mem, (part hole mem).2 filled⟩
    _ = ((segments s).flatMap Segment.source).count '\x7b' := List.count_flatMap.symm
    _ = s.count '\x7b' := by rw [source_segments]

theorem source_map_char (cs : List Char) : (cs.map Segment.char).flatMap Segment.source = cs := by
  rw [List.flatMap_map]
  exact List.flatMap_singleton' cs

theorem eq_map_char {parts : List Segment} (literal : ∀ x ∈ parts, ¬ x.IsHole) :
    parts = (parts.flatMap Segment.source).map .char := by
  induction parts with
  | nil => rfl
  | cons x parts ih =>
    rw [List.forall_mem_cons] at literal
    cases x with
    | char c => exact congrArg (Segment.char c :: ·) (ih literal.2)
    | hole source name => exact absurd (Option.some_ne_none _) literal.1

/-- A text that is cut into characters alone has no placeholder. -/
theorem bare_of_literal {s : List Char} (literal : ∀ x ∈ segments s, ¬ x.IsHole) : Bare s := by
  have chars := eq_map_char literal
  rw [source_segments] at chars
  rintro t ⟨before, rfl⟩ ⟨source, name, rest, frames, rfl⟩
  rw [List.map_append] at chars
  have cut := segments_source_of_append chars
  rw [source_map_char, frames.segments_append] at cut
  have mem : Segment.hole source name ∈ (source ++ rest).map Segment.char :=
    cut ▸ List.mem_cons_self
  obtain ⟨c, -, char⟩ := List.mem_map.1 mem
  cases char

/-- A text with a placeholder loses some of its braces. -/
theorem render_ne_of_not_bare (braceless : Braceless state) {s : String} (h : ¬ Bare s.toList) :
    render s state ≠ s := by
  obtain ⟨hole, mem, filled⟩ : ∃ hole ∈ segments s.toList, hole.IsHole := by
    by_contra! literal
    exact h (bare_of_literal literal)
  intro same
  have fewer := count_fill_lt braceless mem filled
  rw [← toList_render, same] at fewer
  exact Nat.lt_irrefl _ fewer

/-- Values without braces are only looked at again where a placeholder closes around them. A second
rendering changes nothing exactly when there is no such place in the cut of the text, and there is
none unless a placeholder stands behind one literal brace that opens and before one that closes. -/
theorem rerender_eq_self_iff (input : String) (braceless : Braceless state) :
    (render (render input state) state = render input state ↔
      ¬ Reopens state (segments input.toList)) ∧
    ((∀ before hole after, segments input.toList = before ++ hole :: after → hole.IsHole →
        .char '\x7b' ∈ before → .char '\x7d' ∉ after) →
      render (render input state) state = render input state) := by
  have again : render (render input state) state = render input state ↔
      ¬ Reopens state (segments input.toList) := by
    rw [← bare_fill_iff braceless, ← toList_render]
    constructor
    · intro same
      by_contra holed
      exact render_ne_of_not_bare braceless holed same
    · intro bare
      exact bare.render_eq state
  refine ⟨again, fun apart => again.2 ?_⟩
  rintro ⟨before, inner, after, parts, ⟨hole, mem, filled⟩, -⟩
  obtain ⟨left, right, rfl⟩ := List.append_of_mem mem
  refine apart (before ++ .char '\x7b' :: left) hole (right ++ .char '\x7d' :: after) ?_ filled
    (by simp) (by simp)
  rw [parts]
  simp

def lettered : KeyMap Value := .ofList [("a", .text "b")]

theorem braceless_lettered : Braceless lettered := by
  intro key v held c hc
  have single : lettered = KeyMap.empty.insert "a" (.text "b") := rfl
  rw [single, KeyMap.get?_insert] at held
  split at held
  · cases held
    obtain rfl : c = 'b' := List.mem_singleton.1 hc
    decide
  · cases held

/-- Two pairs of braces around a placeholder: the outer ones close around its value, though that has
no braces, and the second rendering takes it for a key. -/
theorem rerender_nested :
    Braceless lettered ∧
      render "\x7b\x7b\x7b\x7ba\x7d\x7d\x7d\x7d" lettered = "\x7b\x7bb\x7d\x7d" ∧
      render (render "\x7b\x7b\x7b\x7ba\x7d\x7d\x7d\x7d" lettered) lettered ≠
        render "\x7b\x7b\x7b\x7ba\x7d\x7d\x7d\x7d" lettered :=
  ⟨braceless_lettered, by decide +kernel, by decide +kernel⟩

/-- A text without literal braces stays what it was filled to. In the one with two pairs of braces a
placeholder closes. -/
theorem rerender_greeting :
    Braceless lettered ∧
      render (render "Hello \x7b\x7b a \x7d\x7d!" lettered) lettered =
        render "Hello \x7b\x7b a \x7d\x7d!" lettered ∧
      Reopens lettered (segments "\x7b\x7b\x7b\x7ba\x7d\x7d\x7d\x7d".toList) := by
  refine ⟨braceless_lettered, ?_, ?_⟩
  · refine (rerender_eq_self_iff _ braceless_lettered).2 fun before hole after parts _ _ closing => ?_
    have none : .char '\x7d' ∉ segments "Hello \x7b\x7b a \x7d\x7d!".toList := by decide +kernel
    rw [parts] at none
    exact none (List.mem_append_right _ (List.mem_cons_of_mem _ closing))
  · by_contra closed
    have same := (rerender_eq_self_iff _ braceless_lettered).1.2 closed
    revert same
    decide +kernel

end Template
end PluginFlow
