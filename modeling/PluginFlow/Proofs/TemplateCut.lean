import PluginFlow.Proofs.Template
import PluginFlow.Proofs.Url

/-!
How a text with placeholders is cut. The cut is told without the scanner: in front of each
placeholder stands a literal text in which none begins, and none is left at the end. There is
exactly one such cut of every text, and rendering fills it, whatever the state is.
-/

namespace PluginFlow

namespace Text

variable {α : Type} {p : α → Bool} {xs ys : List α}

theorem takeWhile_append_eq (all : ∀ x ∈ xs, p x = true) (stops : ∀ y ∈ ys.head?, p y = false) :
    (xs ++ ys).takeWhile p = xs := by
  rw [List.takeWhile_append_of_pos all]
  cases ys with
  | nil => exact List.append_nil xs
  | cons y ys => rw [List.takeWhile_cons_of_neg (by simp [stops y rfl]), List.append_nil]

theorem dropWhile_append_eq (all : ∀ x ∈ xs, p x = true) (stops : ∀ y ∈ ys.head?, p y = false) :
    (xs ++ ys).dropWhile p = ys := by
  rw [List.dropWhile_append_of_pos all, dropWhile_eq_self stops]

end Text

namespace Template

theorem isBlank_eq_false_of_isKeyChar {c : Char} (h : isKeyChar c = true) :
    Text.isBlank c = false := by
  have visible : 0x2D ≤ c.toNat ∧ c.toNat ≤ 0x7A := by
    simp only [isKeyChar, Bool.or_eq_true, Bool.and_eq_true, decide_eq_true_eq, beq_iff_eq,
      Char.le_def, UInt32.le_iff_toNat_le] at h
    change 0x2D ≤ c.val.toNat ∧ c.val.toNat ≤ 0x7A
    rcases h with ((((⟨low, high⟩ | ⟨low, high⟩) | ⟨low, high⟩) | rfl) | rfl) | rfl
    · exact ⟨le_trans (by decide) low, le_trans high (by decide)⟩
    · exact ⟨le_trans (by decide) low, le_trans high (by decide)⟩
    · exact ⟨le_trans (by decide) low, le_trans high (by decide)⟩
    all_goals decide
  refine Bool.eq_false_iff.2 fun blank => ?_
  simp only [Text.isBlank, Bool.or_eq_true, Bool.and_eq_true, decide_eq_true_eq,
    beq_iff_eq] at blank
  omega

theorem isKeyChar_eq_false_of_isBlank {c : Char} (h : Text.isBlank c = true) :
    isKeyChar c = false := by
  cases keyed : isKeyChar c with
  | false => rfl
  | true => rw [isBlank_eq_false_of_isKeyChar keyed] at h; cases h

inductive Frames : List Char → List Char → Prop
  | intro {before name after : List Char} (blankBefore : ∀ c ∈ before, Text.isBlank c = true)
      (named : name ≠ []) (keyed : ∀ c ∈ name, isKeyChar c = true)
      (blankAfter : ∀ c ∈ after, Text.isBlank c = true) :
      Frames ('\x7b' :: '\x7b' :: (before ++ (name ++ (after ++ ['\x7d', '\x7d'])))) name

/-- What the scanner finds at the start of a text begins it. -/
theorem exists_frames_of_placeholder? {s name : List Char} {n : Nat}
    (found : placeholder? s = some (name, n)) :
    ∃ source rest, Frames source name ∧ s = source ++ rest ∧ n = source.length := by
  have holds {p : Char → Bool} {cs : List Char} (c : Char) (hc : c ∈ cs.takeWhile p) : p c = true :=
    List.all_eq_true.1 List.all_takeWhile c hc
  unfold placeholder? at found
  split at found
  · rename_i inner
    dsimp only at found
    split at found
    · rename_i rest closing
      split at found
      · cases found
      · rename_i named
        cases found
        have whole : '\x7b' :: '\x7b' :: inner =
            '\x7b' :: '\x7b' :: (inner.takeWhile Text.isBlank ++
              ((inner.dropWhile Text.isBlank).takeWhile isKeyChar ++
                (((inner.dropWhile Text.isBlank).dropWhile isKeyChar).takeWhile Text.isBlank ++
                  ['\x7d', '\x7d']))) ++ rest := by
          simp only [List.cons_append, List.append_assoc, List.nil_append]
          rw [← closing, List.takeWhile_append_dropWhile, List.takeWhile_append_dropWhile,
            List.takeWhile_append_dropWhile]
        refine ⟨_, rest, .intro holds (by simpa using named) holds holds, whole, ?_⟩
        rw [whole, List.length_append, Nat.add_sub_cancel]
    · cases found
  · cases found

theorem placeholder?_of_closing {inner name tail rest : List Char}
    (fromKey : inner.dropWhile Text.isBlank = name ++ tail) (named : name ≠ [])
    (keyed : ∀ c ∈ name, isKeyChar c = true) (ends : ∀ c ∈ tail.head?, isKeyChar c = false)
    (closing : tail.dropWhile Text.isBlank = '\x7d' :: '\x7d' :: rest) :
    placeholder? ('\x7b' :: '\x7b' :: inner) =
      some (name, ('\x7b' :: '\x7b' :: inner).length - rest.length) := by
  have filled : name.isEmpty = false := by simpa using named
  simp only [placeholder?, fromKey, Text.takeWhile_append_eq keyed ends,
    Text.dropWhile_append_eq keyed ends, closing, filled, Bool.false_eq_true, if_false]

/-- The scanner finds each placeholder that a text begins with, as a whole. -/
theorem Frames.placeholder?_append {source name : List Char} (frames : Frames source name)
    (rest : List Char) : placeholder? (source ++ rest) = some (name, source.length) := by
  cases frames with
  | @intro before _ after blankBefore named keyed blankAfter =>
    have ends : ∀ c ∈ (after ++ '\x7d' :: '\x7d' :: rest).head?, isKeyChar c = false := by
      intro c hc
      cases after with
      | nil => cases hc; decide
      | cons d ds => cases hc; exact isKeyChar_eq_false_of_isBlank (blankAfter _ List.mem_cons_self)
    have fromKey : (before ++ (name ++ (after ++ '\x7d' :: '\x7d' :: rest))).dropWhile
        Text.isBlank = name ++ (after ++ '\x7d' :: '\x7d' :: rest) := by
      refine Text.dropWhile_append_eq blankBefore ?_
      obtain ⟨c, cs, rfl⟩ := List.exists_cons_of_ne_nil named
      rintro _ ⟨⟩
      exact isBlank_eq_false_of_isKeyChar (keyed c List.mem_cons_self)
    have closing : (after ++ '\x7d' :: '\x7d' :: rest).dropWhile Text.isBlank =
        '\x7d' :: '\x7d' :: rest := by
      refine Text.dropWhile_append_eq blankAfter ?_
      rintro _ ⟨⟩
      decide
    have found := placeholder?_of_closing fromKey named keyed ends closing
    simp only [List.cons_append, List.append_assoc, List.nil_append]
    rw [found]
    simp only [List.length_cons, List.length_append, List.length_nil]
    congr 2
    omega

def Begins (s : List Char) : Prop := ∃ source name rest, Frames source name ∧ s = source ++ rest

theorem placeholder?_eq_none {s : List Char} (h : ¬ Begins s) : placeholder? s = none := by
  rw [Option.eq_none_iff_forall_ne_some]
  rintro ⟨name, n⟩ found
  obtain ⟨source, rest, frames, rfl, -⟩ := exists_frames_of_placeholder? found
  exact h ⟨source, name, rest, frames, rfl⟩

/-! ### Segments -/

theorem segmentsFrom_eq (skip : Nat) (s : List Char) :
    segmentsFrom skip s = segments (s.drop skip) := by
  fun_induction segmentsFrom skip s with
  | case1 => simp [segments, segmentsFrom]
  | case2 skip c rest ih => rw [ih, List.drop_succ_cons]
  | case3 c rest key length h ih => simp [segments, segmentsFrom, h]
  | case4 c rest h ih => simp [segments, segmentsFrom, h]

theorem segments_cons_of_not_begins {c : Char} {s : List Char} (h : ¬ Begins (c :: s)) :
    segments (c :: s) = .char c :: segments s := by
  rw [segments, segmentsFrom, placeholder?_eq_none h]
  rfl

theorem Frames.segments_append {source name : List Char} (frames : Frames source name)
    (rest : List Char) : segments (source ++ rest) = .hole source name :: segments rest := by
  have found := frames.placeholder?_append rest
  obtain ⟨c, cs, rfl⟩ : ∃ c cs, source = c :: cs := by
    cases frames
    exact ⟨_, _, rfl⟩
  rw [List.cons_append] at found
  rw [List.cons_append, segments, segmentsFrom, found]
  simp only [List.length_cons, Nat.add_sub_cancel, segmentsFrom_eq, List.drop_left]
  rw [← List.cons_append, ← List.length_cons, List.take_left]

/-- Characters before which no placeholder begins stand for themselves. -/
theorem segments_append_of_first {literal s : List Char}
    (first : ∀ t, t <:+ literal → t ≠ [] → ¬ Begins (t ++ s)) :
    segments (literal ++ s) = literal.map .char ++ segments s := by
  induction literal with
  | nil => rfl
  | cons c literal ih =>
    have here := first (c :: literal) List.suffix_rfl (List.cons_ne_nil c literal)
    rw [List.cons_append] at here ⊢
    rw [segments_cons_of_not_begins here,
      ih fun t ht => first t (ht.trans (List.suffix_cons c literal))]
    rfl

/-! ### Cuts -/

/-- A placeholder and the key of the state that it stands for: its name without one `state.` at the
start. -/
inductive Spells : List Char → String → Prop
  | plain {source name : List Char} (frames : Frames source name)
      (bare : ¬ "state.".toList <+: name) : Spells source (String.ofList name)
  | prefixed {source key : List Char} (frames : Frames source ("state.".toList ++ key)) :
      Spells source (String.ofList key)

theorem spells_iff {source : List Char} {key : String} :
    Spells source key ↔ ∃ name, Frames source name ∧ stateKey name = key := by
  constructor
  · rintro (⟨frames, bare⟩ | frames)
    · rename_i name
      refine ⟨name, frames, ?_⟩
      have other : Text.dropPrefix? "state.".toList name = none :=
        Option.eq_none_iff_forall_ne_some.2 fun rest h =>
          bare ⟨rest, (Text.dropPrefix?_eq_some.1 h).symm⟩
      rw [stateKey, other, Option.getD_none]
    · refine ⟨_, frames, ?_⟩
      rw [stateKey, Text.dropPrefix?_eq_some.2 rfl, Option.getD_some]
  · rintro ⟨name, frames, rfl⟩
    cases h : Text.dropPrefix? "state.".toList name with
    | none =>
      rw [stateKey, h, Option.getD_none]
      refine .plain frames ?_
      rintro ⟨rest, hr⟩
      rw [Text.dropPrefix?_eq_some.2 hr.symm] at h
      cases h
    | some key =>
      rw [stateKey, h, Option.getD_some]
      exact .prefixed (Text.dropPrefix?_eq_some.1 h ▸ frames)

structure Piece where
  literal : List Char
  source : List Char
  key : String

namespace Piece

def text (p : Piece) : List Char := p.literal ++ p.source

def fill (state : KeyMap Value) (p : Piece) : List Char :=
  p.literal ++ (((state.get? p.key).map Value.toText).getD "").toList

end Piece

def Bare (s : List Char) : Prop := ∀ t, t <:+ s → ¬ Begins t

/-- The cut of a text: each piece goes up to the end of the first placeholder in what is left. -/
inductive Cuts : List Char → List Piece → List Char → Prop
  | rest {last : List Char} (bare : Bare last) : Cuts last [] last
  | piece {p : Piece} {tail last : List Char} {pieces : List Piece} (spells : Spells p.source p.key)
      (first : ∀ t, t <:+ p.literal → t ≠ [] → ¬ Begins (t ++ (p.source ++ tail)))
      (onward : Cuts tail pieces last) : Cuts (p.literal ++ (p.source ++ tail)) (p :: pieces) last

theorem Frames.length_pos {source name : List Char} (frames : Frames source name) :
    0 < source.length := by
  cases frames
  exact Nat.succ_pos _

theorem not_begins_nil : ¬ Begins [] := by
  rintro ⟨source, name, rest, frames, h⟩
  cases frames
  cases h

theorem Begins.append {s : List Char} (h : Begins s) (more : List Char) : Begins (s ++ more) := by
  obtain ⟨source, name, rest, frames, rfl⟩ := h
  exact ⟨source, name, rest ++ more, frames, List.append_assoc _ _ _⟩

/-- No placeholder stands in what is in front of the first one. -/
theorem bare_of_first {literal s : List Char}
    (first : ∀ t, t <:+ literal → t ≠ [] → ¬ Begins (t ++ s)) : Bare literal := by
  intro t ht h
  by_cases ne : t = []
  · exact not_begins_nil (ne ▸ h)
  · exact first t ht ne (h.append s)

/-- A placeholder at the start of a text makes the first piece. -/
theorem Frames.cuts_append {source name rest last : List Char} {pieces : List Piece}
    (frames : Frames source name) (onward : Cuts rest pieces last) :
    Cuts (source ++ rest) (⟨[], source, stateKey name⟩ :: pieces) last := by
  refine .piece (p := ⟨[], source, stateKey name⟩) (spells_iff.2 ⟨name, frames, rfl⟩) ?_ onward
  intro t ht ne
  exact absurd (List.suffix_nil.1 ht) ne

/-- A character with which no placeholder begins goes to the first literal text. -/
theorem Cuts.exists_cons {c : Char} {s last : List Char} {pieces : List Piece}
    (here : ¬ Begins (c :: s)) (cuts : Cuts s pieces last) :
    ∃ pieces' last', Cuts (c :: s) pieces' last' := by
  cases cuts with
  | rest bare =>
    refine ⟨[], c :: s, .rest fun t ht => ?_⟩
    rcases List.suffix_cons_iff.1 ht with rfl | ht
    · exact here
    · exact bare t ht
  | @piece p tail _ pieces spells first onward =>
    refine ⟨⟨c :: p.literal, p.source, p.key⟩ :: pieces, last,
      .piece (p := ⟨c :: p.literal, p.source, p.key⟩) spells (fun t ht ne => ?_) onward⟩
    rcases List.suffix_cons_iff.1 ht with rfl | ht
    · exact here
    · exact first t ht ne

/-- Every text can be cut. -/
theorem exists_cuts (s : List Char) : ∃ pieces last, Cuts s pieces last := by
  induction h : s.length using Nat.strongRecOn generalizing s with
  | ind n ih =>
    subst h
    by_cases begins : Begins s
    · obtain ⟨source, name, rest, frames, rfl⟩ := begins
      have shorter : rest.length < (source ++ rest).length := by
        rw [List.length_append]
        exact Nat.lt_add_of_pos_left frames.length_pos
      obtain ⟨pieces, last, onward⟩ := ih _ shorter rest rfl
      exact ⟨_, last, frames.cuts_append onward⟩
    · cases s with
      | nil => exact ⟨[], [], .rest fun t ht => List.suffix_nil.1 ht ▸ not_begins_nil⟩
      | cons c s =>
        obtain ⟨pieces, last, cuts⟩ := ih _ (Nat.lt_succ_self _) s rfl
        exact cuts.exists_cons begins

namespace Cuts

variable {s last : List Char} {pieces : List Piece}

/-- What the pieces and the rest are cut from. -/
theorem text_eq (cuts : Cuts s pieces last) : pieces.flatMap Piece.text ++ last = s := by
  induction cuts with
  | rest _ => rfl
  | piece _ _ _ ih => simp [Piece.text, ih]

theorem bare_last (cuts : Cuts s pieces last) : Bare last := by
  induction cuts with
  | rest bare => exact bare
  | piece _ _ _ ih => exact ih

theorem piece_of_mem (cuts : Cuts s pieces last) {p : Piece} (hp : p ∈ pieces) :
    Bare p.literal ∧ Spells p.source p.key := by
  induction cuts with
  | rest _ => cases hp
  | piece spells first _ ih =>
    rcases List.mem_cons.1 hp with rfl | hp
    · exact ⟨bare_of_first first, spells⟩
    · exact ih hp

end Cuts

/-- The pieces and the rest that segments come to, single characters put together. -/
def gather : List Segment → List Piece × List Char
  | [] => ([], [])
  | .hole source name :: segments =>
    (⟨[], source, stateKey name⟩ :: (gather segments).1, (gather segments).2)
  | .char c :: segments =>
    match gather segments with
    | ([], last) => ([], c :: last)
    | (p :: pieces, last) => ({ p with literal := c :: p.literal } :: pieces, last)

theorem gather_literal (last : List Char) : gather (last.map .char) = ([], last) := by
  induction last with
  | nil => rfl
  | cons c last ih => rw [List.map_cons, gather, ih]

theorem gather_literal_hole (literal source name : List Char) (segments : List Segment) :
    gather (literal.map .char ++ .hole source name :: segments) =
      (⟨literal, source, stateKey name⟩ :: (gather segments).1, (gather segments).2) := by
  induction literal with
  | nil => rfl
  | cons c literal ih => rw [List.map_cons, List.cons_append, gather, ih]

theorem Bare.segments_eq {s : List Char} (bare : Bare s) : segments s = s.map .char := by
  have first : ∀ t, t <:+ s → t ≠ [] → ¬ Begins (t ++ []) := by
    intro t ht _
    rw [List.append_nil]
    exact bare t ht
  calc segments s
      = segments (s ++ []) := by rw [List.append_nil]
    _ = s.map .char ++ segments [] := segments_append_of_first first
    _ = s.map .char := List.append_nil _

namespace Cuts

variable {s last : List Char} {pieces : List Piece}

/-- The scanner makes the cut. -/
theorem gather_segments (cuts : Cuts s pieces last) : gather (segments s) = (pieces, last) := by
  induction cuts with
  | rest bare => rw [bare.segments_eq, gather_literal]
  | @piece p tail _ _ spells first _ ih =>
    obtain ⟨name, frames, named⟩ := spells_iff.1 spells
    rw [segments_append_of_first first, frames.segments_append, gather_literal_hole, ih, named]

/-- The scanner fills the cut. -/
theorem fill_segments (cuts : Cuts s pieces last) (state : KeyMap Value) :
    (segments s).flatMap (·.fill state) = pieces.flatMap (·.fill state) ++ last := by
  have literals (cs : List Char) : (cs.map Segment.char).flatMap (·.fill state) = cs := by
    rw [List.flatMap_map]
    exact List.flatMap_singleton' cs
  induction cuts with
  | rest bare => rw [bare.segments_eq, literals, List.flatMap_nil, List.nil_append]
  | @piece p tail _ _ spells first _ ih =>
    obtain ⟨name, frames, named⟩ := spells_iff.1 spells
    rw [segments_append_of_first first, frames.segments_append, List.flatMap_append, literals,
      List.flatMap_cons, ih, List.flatMap_cons, Piece.fill, Segment.fill, named]
    simp only [List.append_assoc]

theorem unique {pieces' : List Piece} {last' : List Char} (cuts : Cuts s pieces last)
    (cuts' : Cuts s pieces' last') : pieces' = pieces ∧ last' = last :=
  Prod.mk.inj (cuts'.gather_segments.symm.trans cuts.gather_segments)

end Cuts

/-- A text has one cut into literal texts and placeholders, which is put together to the text again.
Whatever the state is, rendering puts the texts of its values for the placeholders of this cut. No
placeholder is left in the literal texts, and a text without double braces is cut nowhere. -/
theorem render_fills_cut (input : String) :
    ∃ pieces last,
      (∀ pieces' last', Cuts input.toList pieces' last' ↔ pieces' = pieces ∧ last' = last) ∧
      (∀ state : KeyMap Value, render input state =
        String.ofList (pieces.flatMap (fun p =>
          p.literal ++ (((state.get? p.key).map Value.toText).getD "").toList) ++ last)) ∧
      pieces.flatMap (fun p => p.literal ++ p.source) ++ last = input.toList ∧
      (∀ p ∈ pieces, Bare p.literal ∧ Spells p.source p.key) ∧ Bare last ∧
      (¬ ['\x7b', '\x7b'] <:+: input.toList → pieces = [] ∧ last = input.toList) := by
  obtain ⟨pieces, last, cuts⟩ := exists_cuts input.toList
  refine ⟨pieces, last, ?_, ?_, cuts.text_eq, fun p => cuts.piece_of_mem, cuts.bare_last, ?_⟩
  · intro pieces' last'
    constructor
    · exact cuts.unique
    · rintro ⟨rfl, rfl⟩
      exact cuts
  · intro state
    rw [render_eq_fill, cuts.fill_segments state]
    rfl
  · intro braceless
    have bare : Bare input.toList := by
      rintro t ⟨before, ht⟩ ⟨source, name, rest, frames, rfl⟩
      cases frames
      exact braceless ⟨before, _, by rw [← ht, List.append_assoc]; rfl⟩
    obtain ⟨rfl, rfl⟩ := (Cuts.rest bare).unique cuts
    exact ⟨rfl, rfl⟩

/-- The first of three braces stands for itself, and a placeholder that is not closed does not keep
the next one from being filled. -/
theorem render_crowded_braces :
    ∀ state : KeyMap Value,
      render "\x7b\x7b\x7b a \x7d\x7d\x7d \x7b\x7ba \x7b\x7bstate.b\x7d\x7d" state =
        "\x7b" ++ ((state.get? "a").map Value.toText).getD "" ++ "\x7d \x7b\x7ba " ++
          ((state.get? "b").map Value.toText).getD "" := by
  obtain ⟨pieces, last, only, renders, -⟩ :=
    render_fills_cut "\x7b\x7b\x7b a \x7d\x7d\x7d \x7b\x7ba \x7b\x7bstate.b\x7d\x7d"
  have cut : (pieces, last) =
      ([⟨"\x7b".toList, "\x7b\x7b a \x7d\x7d".toList, "a"⟩,
        ⟨"\x7d \x7b\x7ba ".toList, "\x7b\x7bstate.b\x7d\x7d".toList, "b"⟩], []) :=
    ((only pieces last).2 ⟨rfl, rfl⟩).gather_segments.symm.trans rfl
  obtain ⟨rfl, rfl⟩ := Prod.mk.inj cut
  intro state
  rw [renders state, ← String.toList_inj]
  simp

/-- What a placeholder is filled with stays as it is. -/
example :
    render "\x7b\x7ba\x7d\x7d \x7b\x7bb\x7d\x7d"
        (.ofList [("a", .text "x"), ("b", .text "\x7b\x7ba\x7d\x7d")]) =
      "x \x7b\x7ba\x7d\x7d" := by
  decide +kernel

end Template
end PluginFlow
