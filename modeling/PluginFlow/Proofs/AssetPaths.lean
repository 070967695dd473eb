import Mathlib.Data.List.TakeWhile
import PluginFlow.Asset

/-!
Paths of assets. What leads a path is a run of points (`./`) and slashes (`/`). An asset is kept
without the points in front and without the slashes next to these; a point behind a slash is part of
its path, with all marks that follow. So paths whose points all stand in front of their slashes
stand for the same asset whatever marks lead them.
-/

namespace PluginFlow

inductive PathMark
  | point
  | slash
  deriving DecidableEq

namespace PathMark

def chars : PathMark → List Char
  | point => ['.', '/']
  | slash => ['/']

def split : List Char → List PathMark × List Char
  | '.' :: '/' :: rest => (point :: (split rest).1, (split rest).2)
  | '/' :: rest => (slash :: (split rest).1, (split rest).2)
  | s => ([], s)

/-- The marks that are part of a path: all but the points in front and the slashes next to these. -/
def kept (ms : List PathMark) : List PathMark :=
  (ms.dropWhile (· = point)).dropWhile (· = slash)

structure Bare (s : List Char) : Prop where
  point : ∀ rest, s ≠ '.' :: '/' :: rest
  slash : ∀ rest, s ≠ '/' :: rest

theorem split_of_bare {s : List Char} (bare : Bare s) : split s = ([], s) := by
  rw [split]
  · exact bare.point
  · exact bare.slash

theorem bare_split (s : List Char) : Bare (split s).2 := by
  induction s using split.induct with
  | case1 rest ih => exact ih
  | case2 rest ih => exact ih
  | case3 s noPoint noSlash =>
    have bare : Bare s := ⟨noPoint, noSlash⟩
    rwa [split_of_bare bare]

/-- A text is its marks and what stands behind them. -/
theorem chars_split (s : List Char) : (split s).1.flatMap chars ++ (split s).2 = s := by
  induction s using split.induct with
  | case1 rest ih => exact congrArg (['.', '/'] ++ ·) ih
  | case2 rest ih => exact congrArg (['/'] ++ ·) ih
  | case3 s noPoint noSlash => rw [split_of_bare ⟨noPoint, noSlash⟩, List.flatMap_nil, List.nil_append]

theorem split_chars (ms : List PathMark) {s : List Char} (bare : Bare s) :
    split (ms.flatMap chars ++ s) = (ms, s) := by
  induction ms with
  | nil => exact split_of_bare bare
  | cons m ms ih =>
    rw [List.flatMap_cons, List.append_assoc]
    cases m with
    | point => rw [chars, List.cons_append, List.cons_append, List.nil_append, split, ih]
    | slash => rw [chars, List.cons_append, List.nil_append, split, ih]

/-- Marks and a bare text are told apart. -/
theorem chars_append_inj {ms ms' : List PathMark} {s s' : List Char} (bare : Bare s)
    (bare' : Bare s') : ms.flatMap chars ++ s = ms'.flatMap chars ++ s' ↔ s = s' ∧ ms = ms' := by
  constructor
  · intro same
    have parts := congrArg split same
    rw [split_chars ms bare, split_chars ms' bare'] at parts
    exact ⟨congrArg Prod.snd parts, congrArg Prod.fst parts⟩
  · rintro ⟨rfl, rfl⟩
    rfl

theorem length_le_chars (ms : List PathMark) : ms.length ≤ (ms.flatMap chars).length := by
  induction ms with
  | nil => exact Nat.le_refl 0
  | cons m ms ih =>
    rw [List.flatMap_cons, List.length_append, List.length_cons]
    cases m <;> simp only [chars, List.length_cons, List.length_nil] <;> omega

/-- With enough tries, all points in front are dropped. -/
theorem dropLeading_chars (ms : List PathMark) {s : List Char} (bare : Bare s) {tries : Nat}
    (enough : ms.length ≤ tries) :
    dropLeading ['.', '/'] tries (ms.flatMap chars ++ s) =
      (ms.dropWhile (· = point)).flatMap chars ++ s := by
  induction ms generalizing tries with
  | nil =>
    have other : Text.dropPrefix? ['.', '/'] s = none :=
      Option.eq_none_iff_forall_ne_some.2 fun rest found =>
        bare.point rest (Text.dropPrefix?_eq_some.1 found)
    cases tries with
    | zero => rfl
    | succ tries =>
      rw [List.flatMap_nil, List.nil_append, dropLeading, other]
      rfl
  | cons m ms ih =>
    cases tries with
    | zero => exact absurd enough (Nat.not_succ_le_zero _)
    | succ tries =>
      cases m with
      | point => exact ih (Nat.le_of_succ_le_succ enough)
      | slash => rfl

theorem dropWhile_chars (ms : List PathMark) {s : List Char} (bare : Bare s) :
    (ms.flatMap chars ++ s).dropWhile (· == '/') =
      (ms.dropWhile (· = slash)).flatMap chars ++ s := by
  induction ms with
  | nil =>
    cases s with
    | nil => rfl
    | cons c s =>
      have other : c ≠ '/' := fun same => bare.slash s (same ▸ rfl)
      simp [other]
  | cons m ms ih =>
    cases m with
    | point => rfl
    | slash => exact ih

end PathMark

namespace AssetTable

open PathMark (point slash chars kept split)

def marks (path : String) : List PathMark := (split path.toList).1

def barePath (path : String) : List Char := (split path.toList).2

/-- The points that lead a path stand in front of the slashes that lead it. -/
def PointsFirst (path : String) : Prop :=
  ∃ points slashes, marks path = List.replicate points point ++ List.replicate slashes slash

/-- Two paths stand for the same asset: they agree but for marks that are part of neither. -/
def SameAsset (path query : String) : Prop :=
  barePath path = barePath query ∧ kept (marks path) = kept (marks query)

instance (path query : String) : Decidable (SameAsset path query) :=
  inferInstanceAs (Decidable (_ ∧ _))

theorem bare_barePath (path : String) : PathMark.Bare (barePath path) :=
  PathMark.bare_split path.toList

theorem toList_eq_marks (path : String) :
    path.toList = (marks path).flatMap chars ++ barePath path :=
  (PathMark.chars_split path.toList).symm

theorem toList_assetPath (path : String) :
    (assetPath path).toList = (kept (marks path)).flatMap chars ++ barePath path := by
  have bare := bare_barePath path
  have enough : (marks path).length ≤ ((marks path).flatMap chars ++ barePath path).length := by
    rw [List.length_append]
    exact Nat.le_add_right_of_le (PathMark.length_le_chars _)
  rw [assetPath, String.toList_ofList, toList_eq_marks path,
    PathMark.dropLeading_chars _ bare enough, PathMark.dropWhile_chars _ bare, kept]

theorem assetPath_eq_iff {path query : String} :
    assetPath path = assetPath query ↔ SameAsset path query := by
  rw [← String.toList_inj, toList_assetPath, toList_assetPath,
    PathMark.chars_append_inj (bare_barePath path) (bare_barePath query), SameAsset]

theorem pointsFirst_iff {path : String} : PointsFirst path ↔ kept (marks path) = [] := by
  unfold PointsFirst kept
  generalize marks path = ms
  rw [List.dropWhile_eq_nil_iff]
  constructor
  · rintro ⟨points, slashes, rfl⟩ m mem
    have inFront : ∀ m ∈ List.replicate points point, decide (m = point) = true :=
      fun m mem => decide_eq_true (List.eq_of_mem_replicate mem)
    rw [List.dropWhile_append_of_pos inFront] at mem
    exact decide_eq_true (List.eq_of_mem_replicate ((List.dropWhile_sublist _).mem mem))
  · intro slashes
    refine ⟨(ms.takeWhile (· = point)).length, (ms.dropWhile (· = point)).length, ?_⟩
    have front : ms.takeWhile (· = point) = List.replicate _ point :=
      List.eq_replicate_of_mem fun m mem => by simpa using List.mem_takeWhile_imp mem
    have back : ms.dropWhile (· = point) = List.replicate _ slash :=
      List.eq_replicate_of_mem fun m mem => of_decide_eq_true (slashes m mem)
    rw [← front, ← back, List.takeWhile_append_dropWhile]

theorem get?_foldl_add (assets : List (String × List UInt8)) (t : AssetTable) (query : String) :
    (assets.foldl (fun t a => t.add a.1 a.2) t).get? query =
      ((assets.filter fun a => SameAsset a.1 query).getLast?.map (·.2)).or (t.get? query) := by
  induction assets generalizing t with
  | nil => rfl
  | cons a assets ih =>
    rw [List.foldl_cons, ih, get?_add, List.filter_cons]
    by_cases same : SameAsset a.1 query
    · rw [if_pos (decide_eq_true same), if_pos (assetPath_eq_iff.2 same).symm, List.getLast?_cons]
      cases (assets.filter fun a => SameAsset a.1 query).getLast? <;> rfl
    · rw [if_neg (mt of_decide_eq_true same), if_neg fun h => same (assetPath_eq_iff.1 h.symm)]

def lastWith (p : String → Prop) [DecidablePred p] (assets : List (String × List UInt8)) :
    Option (List UInt8) :=
  (assets.filter fun a => p a.1).getLast?.map (·.2)

theorem get?_ofList (assets : List (String × List UInt8)) (query : String) :
    (ofList assets).get? query = lastWith (SameAsset · query) assets := by
  rw [ofList, get?_foldl_add]
  exact Option.or_none

theorem get?_congr {query query' : String} (same : SameAsset query query') (t : AssetTable) :
    t.get? query = t.get? query' := by
  rw [get?, get?, assetPath_eq_iff.2 same]

theorem split_point (query : String) :
    split ("./" ++ query).toList = (point :: marks query, barePath query) := by
  rw [String.toList_append]
  rfl

theorem split_slash (query : String) :
    split ("/" ++ query).toList = (slash :: marks query, barePath query) := by
  rw [String.toList_append]
  rfl

theorem sameAsset_point (query : String) : SameAsset ("./" ++ query) query := by
  rw [SameAsset, barePath, marks, split_point]
  exact ⟨rfl, rfl⟩

/-- A slash in front of a path that no point leads is no part of it. -/
theorem sameAsset_slash {query : String} (noPoint : ∀ rest, query ≠ "./" ++ rest) :
    SameAsset ("/" ++ query) query := by
  rw [SameAsset, barePath, marks, split_slash]
  refine ⟨rfl, ?_⟩
  change kept (slash :: marks query) = kept (marks query)
  cases led : marks query with
  | nil => rfl
  | cons m ms =>
    cases m with
    | slash => rfl
    | point =>
      have pointed := toList_eq_marks query
      rw [led, List.flatMap_cons, List.append_assoc] at pointed
      refine absurd ?_ (noPoint (String.ofList (ms.flatMap chars ++ barePath query)))
      rw [← String.toList_inj, String.toList_append, String.toList_ofList, String.toList_ofList]
      exact pointed

theorem get?_single (path query : String) (bytes : List UInt8) :
    (ofList [(path, bytes)]).get? query = if SameAsset path query then some bytes else none := by
  rw [ofList, List.foldl_cons, List.foldl_nil, get?_add]
  simp only [eq_comm, assetPath_eq_iff]
  rfl

/-- A path stands for the same asset as its bare form if no mark is part of it. -/
theorem sameAsset_bare_iff {query : String} :
    SameAsset (String.ofList (barePath query)) query ↔ PointsFirst query := by
  have noMarks : split (String.ofList (barePath query)).toList = ([], barePath query) := by
    rw [String.toList_ofList, PathMark.split_of_bare (bare_barePath query)]
  rw [SameAsset, barePath, marks, noMarks, pointsFirst_iff]
  exact ⟨fun h => h.2.symm, fun h => ⟨rfl, h.symm⟩⟩

/-- Assets and queries whose points stand in front of their slashes. -/
theorem sameAsset_iff_of_pointsFirst {path query : String} (first : PointsFirst path)
    (first' : PointsFirst query) : SameAsset path query ↔ barePath path = barePath query := by
  rw [SameAsset, pointsFirst_iff.1 first, pointsFirst_iff.1 first', and_iff_left rfl]

/-- An asset is found under every path that stands for it, and the last one that was added is the
one that is found. Paths whose points stand in front of their slashes stand for the same asset when
they are equal without the marks that lead them. A point in front of a path changes nothing, nor
does a slash unless a point leads the path: a path with a point behind a slash is not even found
under its bare form. -/
theorem get?_ofList_last (assets : List (String × List UInt8)) (query : String) :
    (ofList assets).get? query = lastWith (SameAsset · query) assets ∧
    (PointsFirst query → (∀ a ∈ assets, PointsFirst a.1) →
      (ofList assets).get? query = lastWith (barePath · = barePath query) assets) ∧
    (ofList assets).get? ("./" ++ query) = (ofList assets).get? query ∧
    ((∀ rest, query ≠ "./" ++ rest) →
      (ofList assets).get? ("/" ++ query) = (ofList assets).get? query) ∧
    (∀ bytes, (ofList [(String.ofList (barePath query), bytes)]).get? query = some bytes ↔
      PointsFirst query) := by
  refine ⟨get?_ofList assets query, fun first all => ?_, get?_congr (sameAsset_point query) _,
    fun noPoint => get?_congr (sameAsset_slash noPoint) _, fun bytes => ?_⟩
  · rw [get?_ofList, lastWith, lastWith, List.filter_congr fun a mem =>
      decide_eq_decide.2 (sameAsset_iff_of_pointsFirst (all a mem) first)]
  · rw [get?_single, Option.ite_none_right_eq_some, and_iff_left rfl, sameAsset_bare_iff]

def gallery : List (String × List UInt8) := [("./img/a.png", [1, 2]), ("/img/a.png", [3])]

theorem gallery_last :
    PointsFirst ".//img/a.png" ∧ (∀ a ∈ gallery, PointsFirst a.1) ∧
      (ofList gallery).get? ".//img/a.png" = some [3] := by
  have first : PointsFirst ".//img/a.png" := ⟨1, 1, by decide +kernel⟩
  have all : ∀ a ∈ gallery, PointsFirst a.1 :=
    List.forall_mem_cons.2 ⟨⟨1, 0, by decide +kernel⟩,
      List.forall_mem_cons.2 ⟨⟨0, 1, by decide +kernel⟩, List.forall_mem_nil _⟩⟩
  refine ⟨first, all, ?_⟩
  rw [(get?_ofList_last gallery ".//img/a.png").2.1 first all]
  decide +kernel

/-- A point behind a slash is not taken off: the asset is there without the two marks, and is not
found with them. -/
theorem slash_point_not_found :
    (ofList [("a", [1])]).get? "/./a" = none ∧
      lastWith (barePath · = barePath "/./a") [("a", [1])] = some [1] := by
  decide +kernel

end AssetTable
end PluginFlow
