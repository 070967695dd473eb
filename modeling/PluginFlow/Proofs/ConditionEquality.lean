import PluginFlow.Condition
import PluginFlow.Proofs.DecimalReading
import PluginFlow.Proofs.RedactedDiff

/-!
Equality in conditions. Two values are compared as numbers or as texts, as both of them allow, and
still there is one equality: a value counts by the place of its finite number, or by its text when
it has none. Only `nan` is not equal to itself.
-/

namespace PluginFlow

/-- A number that is not finite is equal to itself alone, and `nan` not even to that. -/
theorem Number.far_equals_iff {x y : Number} (far : x.isFinite = false) :
    x.equals y = true ↔ x = y ∧ x ≠ .nan := by
  constructor
  · intro same
    rcases eq_or_zeros_of_equals same with rfl | ⟨s, t, fits, rfl, rfl⟩
    · exact ⟨rfl, (equals_self x).1 same⟩
    · cases far
  · rintro ⟨rfl, number⟩
    exact (equals_self x).2 number

/-- What a value counts by in a comparison for equality: where its finite number stands, or its
text when it has none. -/
inductive Face
  | place (units : Int)
  | text (s : String)
  deriving DecidableEq

namespace Value

def face (v : Value) : Face :=
  match v.asNumber? with
  | some (.finite negative units _) => .place (Number.signed negative units)
  | _ => .text v.toText

/-- How a value enters a comparison: by a finite number that its text is read as too, by a number
that is not finite, or by its text alone. -/
inductive Enters (v : Value) : Prop
  | finite {negative : Bool} {units : Nat} {fits : Number.Representable units}
      (read : v.asNumber? = some (.finite negative units fits))
      (shown : (numberOfText? v.toText).isSome = true)
  | far {x : Number} (number : v = .number x) (far : x.isFinite = false)
  | text (read : v.asNumber? = none) (shown : numberOfText? v.toText = none)

theorem enters (v : Value) : v.Enters := by
  cases v with
  | null => exact .text rfl (by decide)
  | bool b => exact .text rfl (by cases b <;> decide)
  | number n =>
    cases n with
    | nan => exact .far rfl rfl
    | infinite negative => exact .far rfl rfl
    | finite negative units fits =>
      obtain ⟨y, back, -⟩ := exists_numberOfText?_numberText (x := .finite negative units fits) rfl
      exact .finite rfl (Option.isSome_of_eq_some back)
  | text s =>
    cases read : numberOfText? s with
    | none => exact .text read read
    | some x =>
      have finite : x.isFinite = true := (Option.filter_eq_some_iff.1 read).2
      cases x with
      | nan => cases finite
      | infinite negative => cases finite
      | finite negative units fits => exact .finite read (Option.isSome_of_eq_some read)

variable {u v : Value}

theorem face_finite {negative : Bool} {units : Nat} {fits : Number.Representable units}
    (read : v.asNumber? = some (.finite negative units fits)) :
    v.face = .place (Number.signed negative units) := by
  rw [face, read]

theorem face_far {x : Number} (far : x.isFinite = false) :
    (number x).face = .text (numberText x) := by
  cases x with
  | nan => rfl
  | infinite negative => rfl
  | finite negative units fits => cases far

theorem face_text (read : v.asNumber? = none) : v.face = .text v.toText := by
  rw [face, read]

theorem ne_nan_of_finite {negative : Bool} {units : Nat} {fits : Number.Representable units}
    (read : v.asNumber? = some (.finite negative units fits)) : v ≠ .number .nan := by
  rintro rfl
  cases read

theorem ne_nan_of_text (read : v.asNumber? = none) : v ≠ .number .nan := by
  rintro rfl
  cases read

/-- A text that is read as a number is not one that is not. -/
theorem toText_ne (shown : (numberOfText? u.toText).isSome = true)
    (bare : numberOfText? v.toText = none) : u.toText ≠ v.toText := by
  intro same
  rw [same, bare] at shown
  cases shown

theorem numberText_far_injective {x y : Number} (fx : x.isFinite = false)
    (fy : y.isFinite = false) (same : numberText x = numberText y) : x = y := by
  cases x with
  | finite negative units fits => cases fx
  | nan =>
    cases y with
    | finite negative units fits => cases fy
    | nan => rfl
    | infinite t => cases t <;> exact absurd same (by decide)
  | infinite s =>
    cases y with
    | finite negative units fits => cases fy
    | nan => cases s <;> exact absurd same (by decide)
    | infinite t =>
      cases s <;> cases t
      case false.false => rfl
      case true.true => rfl
      all_goals exact absurd same (by decide)

end Value

open Value

theorem compareValues_equal (u v : Value) :
    compareValues u "==" v =
      match u.asNumber?, v.asNumber? with
      | some l, some r => l.equals r
      | _, _ => u.toText == v.toText := rfl

/-- Operators that go over into one another when their sides are exchanged. -/
theorem compareValues_swap {op op' : String} (o o' : Operator)
    (named : Operator.ofText? op = some o) (named' : Operator.ofText? op' = some o')
    (numbers : ∀ l r, o.onNumbers l r = o'.onNumbers r l)
    (texts : ∀ l r, o.onTexts l r = o'.onTexts r l) (u v : Value) :
    compareValues u op v = compareValues v op' u := by
  simp only [compareValues, named, named']
  cases u.asNumber? <;> cases v.asNumber?
  case some.some l r => exact numbers l r
  all_goals exact texts _ _

theorem compareValues_equal_comm (u v : Value) :
    compareValues u "==" v = compareValues v "==" u :=
  compareValues_swap .equal .equal rfl rfl Number.equals_comm (fun _ _ => Bool.beq_comm) u v

theorem compareValues_notEqual (u v : Value) :
    compareValues u "!=" v = !compareValues u "==" v := by
  have unequal : Operator.ofText? "!=" = some .notEqual := rfl
  rw [compareValues_equal]
  simp only [compareValues, unequal]
  cases u.asNumber? <;> cases v.asNumber? <;> rfl

section

variable {u v : Value}

theorem compareValues_of_finite {negative : Bool} {units : Nat}
    {fits : Number.Representable units}
    (read : u.asNumber? = some (.finite negative units fits))
    (shown : (numberOfText? u.toText).isSome = true) :
    compareValues u "==" v = true ↔ u.face = v.face := by
  rw [compareValues_equal, read, face_finite read]
  cases v.enters with
  | finite read' _ =>
    rw [read', face_finite read']
    simp [Number.equals, Number.related, Number.position?]
  | far number far =>
    subst number
    rw [face_far far]
    simp only [asNumber?, reduceCtorEq, iff_false]
    rw [Number.equals_comm, Number.far_equals_iff far]
    rintro ⟨rfl, -⟩
    cases far
  | text read' bare =>
    rw [read', face_text read']
    simpa using toText_ne shown bare

theorem compareValues_of_text (read : u.asNumber? = none)
    (bare : numberOfText? u.toText = none) :
    compareValues u "==" v = true ↔ u.face = v.face := by
  rw [compareValues_equal, read, face_text read]
  cases v.enters with
  | finite read' shown =>
    rw [face_finite read']
    simpa using (toText_ne shown bare).symm
  | far number far =>
    subst number
    rw [face_far far]
    simp [toText]
  | text read' _ =>
    rw [face_text read']
    simp

theorem compareValues_of_far {x y : Number} (fx : x.isFinite = false) (fy : y.isFinite = false) :
    compareValues (.number x) "==" (.number y) = true ↔
      (number x).face = (number y).face ∧ ¬ (number x = number .nan ∧ number y = number .nan) := by
  rw [face_far fx, face_far fy, Face.text.injEq, number.injEq, number.injEq]
  refine (Number.far_equals_iff fx).trans ?_
  constructor
  · rintro ⟨rfl, apart⟩
    exact ⟨rfl, fun both => apart both.1⟩
  · rintro ⟨same, apart⟩
    obtain rfl := numberText_far_injective fx fy same
    exact ⟨rfl, fun none => apart ⟨none, none⟩⟩

/-- Values are equal when they show one face, `nan` beside itself apart. -/
theorem compareValues_equal_iff :
    compareValues u "==" v = true ↔
      u.face = v.face ∧ ¬ (u = .number .nan ∧ v = .number .nan) := by
  cases u.enters with
  | finite read shown =>
    rw [compareValues_of_finite read shown,
      and_iff_left fun both => ne_nan_of_finite read both.1]
  | text read bare =>
    rw [compareValues_of_text read bare, and_iff_left fun both => ne_nan_of_text read both.1]
  | far isNumber fx =>
    cases v.enters with
    | finite read shown =>
      rw [compareValues_equal_comm, compareValues_of_finite read shown, eq_comm,
        and_iff_left fun both => ne_nan_of_finite read both.2]
    | text read bare =>
      rw [compareValues_equal_comm, compareValues_of_text read bare, eq_comm,
        and_iff_left fun both => ne_nan_of_text read both.2]
    | far isNumber' fy =>
      subst isNumber isNumber'
      exact compareValues_of_far fx fy

end

/-- Values are equal when they show one face, `nan` beside itself apart, so equality is an
equivalence of all values but `nan`. Inequality is its negation, and the comparisons of size go over
into one another when their sides are exchanged. -/
theorem compareValues_coherent :
    (∀ u v, compareValues u "==" v = true ↔
      u.face = v.face ∧ ¬ (u = .number .nan ∧ v = .number .nan)) ∧
    Equivalence (fun u v : { v : Value // v ≠ .number .nan } =>
      compareValues u.1 "==" v.1 = true) ∧
    (∀ u v, compareValues u "!=" v = !compareValues u "==" v) ∧
    (∀ u v, compareValues u "<" v = compareValues v ">" u) ∧
    ∀ u v, compareValues u "<=" v = compareValues v ">=" u := by
  have faces (u v : { v : Value // v ≠ .number .nan }) :
      compareValues u.1 "==" v.1 = true ↔ u.1.face = v.1.face :=
    compareValues_equal_iff.trans (and_iff_left fun both => u.2 both.1)
  refine ⟨fun _ _ => compareValues_equal_iff,
    ⟨fun v => ?refl, fun {u v} h => ?symm, fun {u v w} h h' => ?trans⟩, compareValues_notEqual,
    compareValues_swap .less .greater rfl rfl (fun _ _ => rfl) fun _ _ => rfl,
    compareValues_swap .atMost .atLeast rfl rfl (fun _ _ => rfl) fun _ _ => rfl⟩
  case refl => exact (faces v v).2 rfl
  case symm => exact (faces v u).2 ((faces u v).1 h).symm
  case trans => exact (faces u w).2 (((faces u v).1 h).trans ((faces v w).1 h'))

/-- A number and a padded text are equal because both are equal to its own text. -/
theorem five_and_padded_five : compareValues (.ofInt 5) "==" (.text " 5.00 ") = true := by
  have first : compareValues (.ofInt 5) "==" (.text "5") = true := by decide +kernel
  have second : compareValues (.text "5") "==" (.text " 5.00 ") = true := by decide +kernel
  exact compareValues_coherent.2.1.trans (x := ⟨.ofInt 5, by decide +kernel⟩)
    (y := ⟨.text "5", nofun⟩) (z := ⟨.text " 5.00 ", nofun⟩) first second

example : compareValues (.number .nan) "==" (.number .nan) = false := rfl

end PluginFlow
