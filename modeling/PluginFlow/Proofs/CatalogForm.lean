import PluginFlow.Proofs.Forms
import PluginFlow.Catalog.Builtin
import PluginFlow.Validation

/-!
The catalog as JSON. A node type whose numbers are whole and small is read back from its JSON text
as it was, but for default values that are null: these are written, and read as if there were none.
A required param with such a default is missed after the reading; no built-in type has one, although
two of them have a default that is lost.
-/

namespace PluginFlow

open Json (Document)
open Json.Reader

/-! ### Whole numbers -/

instance (x : Number) : Decidable x.Whole :=
  decidable_of_iff (x.isIntegral = true ∧ ∃ i ∈ x.truncate?, i.natAbs ≤ 2 ^ 49)
    (by simp only [Number.Whole, Option.mem_def])

theorem Value.whole_number_iff {x : Number} : (number x).Whole ↔ x.Whole := by
  constructor
  · exact fun h => h x rfl
  · rintro h y ⟨⟩
    exact h

instance : (v : Value) → Decidable v.Whole
  | .number x => decidable_of_iff x.Whole Value.whole_number_iff.symm
  | .null => .isTrue (by rintro _ ⟨⟩)
  | .bool _ => .isTrue (by rintro _ ⟨⟩)
  | .text _ => .isTrue (by rintro _ ⟨⟩)

namespace ParamSpec

/-- A param without numbers other than whole ones, whose greatest length fits its word. -/
structure Whole (p : ParamSpec) : Prop where
  defaultValue : ∀ v ∈ p.defaultValue, v.Whole
  min : ∀ x ∈ p.min, x.Whole
  max : ∀ x ∈ p.max, x.Whole
  maxLength : ∀ n ∈ p.maxLength, n < 2 ^ 64

instance (p : ParamSpec) : Decidable p.Whole :=
  decidable_of_iff ((∀ v ∈ p.defaultValue, v.Whole) ∧ (∀ x ∈ p.min, x.Whole) ∧
      (∀ x ∈ p.max, x.Whole) ∧ ∀ n ∈ p.maxLength, n < 2 ^ 64)
    ⟨fun ⟨v, lo, hi, n⟩ => ⟨v, lo, hi, n⟩, fun ⟨v, lo, hi, n⟩ => ⟨v, lo, hi, n⟩⟩

def withoutNull (p : ParamSpec) : ParamSpec :=
  { p with defaultValue := p.defaultValue.filter (!·.isNull) }

end ParamSpec

namespace NodeSpec

def Whole (s : NodeSpec) : Prop := ∀ p ∈ s.params, p.Whole

instance (s : NodeSpec) : Decidable s.Whole :=
  inferInstanceAs (Decidable (∀ p ∈ s.params, p.Whole))

def withoutNulls (s : NodeSpec) : NodeSpec :=
  { s with params := s.params.map ParamSpec.withoutNull }

end NodeSpec

/-! ### Reading back -/

theorem Number.Whole.draft_ne_null {x : Number} (whole : x.Whole) : x.draft ≠ .null := by
  cases x with
  | finite negative units fits => exact nofun
  | nan => cases whole.1
  | infinite negative => cases whole.1

theorem Number.Whole.reader_draft {x : Number} (whole : x.Whole) (depth : Nat) :
    optional number depth (Document.number x).draft = .ok (some x) := by
  have reads := Number.readsAs_iff.1 whole.modest.readsAs
  have present := whole.draft_ne_null
  rw [Document.draft]
  refine optional_eq_some present ?_
  cases h : x.draft with
  | null => exact absurd h present
  | _ => rwa [h] at reads

/-- A default value that is null is read as none. -/
theorem Value.Whole.reader_draft {v : Value} (whole : v.Whole) (depth : Nat) :
    optional reader depth v.toDocument.draft = .ok ((some v).filter (!·.isNull)) := by
  have reads : reader depth v.toDocument.draft = .ok v :=
    reader_eq_ok_iff.2 (readsAs_self_iff.2 fun x same => (whole x same).modest.readsAs)
  cases v with
  | null => rfl
  | bool b => exact optional_eq_some nofun reads
  | text s => exact optional_eq_some nofun reads
  | number x => exact optional_eq_some (whole x rfl).draft_ne_null reads

theorem optional_count_draft {n : Nat} (fits : n < 2 ^ 64) (depth : Nat) :
    optional count depth (Document.integer n).draft = .ok (some n) :=
  optional_eq_some nofun (count_draft fits depth)

theorem ParamType.reader_draft (type : ParamType) (depth : Nat) :
    ParamType.reader depth (Document.text type.name).draft = .ok type :=
  variant_draft (by cases type <;> rfl) depth

namespace ParamSpec

/-- Allowed values are left out when there are none. -/
theorem fields_allowedValues {p : Draft} {values : List String} {depth : Nat}
    (room : depth < Json.depthLimit) (unset : p.allowedValues = none) :
    ∃ read, fields slots depth none p (Document.draftMembers
        (if values.isEmpty then [] else [("allowedValues", .array (values.map .text))])) =
        .ok { p with allowedValues := read } ∧ read.getD [] = values := by
  cases values with
  | nil => exact ⟨none, by rw [← unset]; rfl, rfl⟩
  | cons value values =>
    refine ⟨some (value :: values), ?_, rfl⟩
    have reads : list text depth (Document.array ((value :: values).map .text)).draft =
        .ok (value :: values) :=
      (list_eq_ok_iff room).2 (List.forall₂_same.2 fun s _ => text_draft _ s)
    rw [if_neg (by simp), fields_slot rfl unset reads]
    rfl

def members (p : ParamSpec) : List (String × Document) :=
  ("key", .text p.key) :: ("paramType", .text p.type.name) :: ("required", .bool p.required) ::
    (Document.optional "defaultValue" p.defaultValue Value.toDocument ++
      (Document.optional "min" p.min .number ++ (Document.optional "max" p.max .number ++
        (Document.optional "maxLength" p.maxLength (fun n => .integer n) ++
          (if p.allowedValues.isEmpty then []
            else [("allowedValues", .array (p.allowedValues.map .text))])))))

theorem toDocument_eq (p : ParamSpec) : p.toDocument = .object p.members := by
  simp only [toDocument, members, List.cons_append, List.nil_append, List.append_assoc]

/-- What is read of a param, but for its allowed values. -/
def drafted (p : ParamSpec) : Draft :=
  { key := some p.key, type := some p.type, required := some p.required,
    defaultValue := p.defaultValue.map fun v => (some v).filter (!·.isNull),
    min := p.min.map some, max := p.max.map some, maxLength := p.maxLength.map some }

theorem finish_drafted (p : ParamSpec) {read : Option (List String)}
    (same : read.getD [] = p.allowedValues) :
    Draft.finish { p.drafted with allowedValues := read } = p.withoutNull := by
  obtain ⟨key, type, required, defaultValue, min, max, maxLength, allowedValues⟩ := p
  cases same
  cases defaultValue <;> cases min <;> cases max <;> cases maxLength <;> rfl

theorem fields_members {p : ParamSpec} (whole : p.Whole) {depth : Nat}
    (room : depth < Json.depthLimit) :
    ∃ read, fields slots depth none {} (Document.draftMembers p.members) =
        .ok { p.drafted with allowedValues := read } ∧ read.getD [] = p.allowedValues := by
  obtain ⟨read, last, same⟩ := fields_allowedValues (p := p.drafted) room rfl
  refine ⟨read, ?_, same⟩
  rw [← last]
  obtain ⟨key, type, required, defaultValue, min, max, maxLength, allowedValues⟩ := p
  -- The draft after each member is the whole one without the fields that are still to come.
  generalize drafted : ParamSpec.drafted _ = d
  rw [members, fields_slot rfl rfl (text_draft _ _), fields_slot rfl rfl (type.reader_draft _),
    fields_slot rfl rfl (bool_draft _ _),
    fields_optional_kept rfl rfl (fun v hv => (whole.defaultValue v hv).reader_draft _)
      { d with min := none, max := none, maxLength := none }
      (by rw [← drafted]; cases defaultValue <;> rfl),
    fields_optional_kept rfl rfl (fun x hx => (whole.min x hx).reader_draft _)
      { d with max := none, maxLength := none } (by rw [← drafted]; cases min <;> rfl),
    fields_optional_kept rfl rfl (fun x hx => (whole.max x hx).reader_draft _)
      { d with maxLength := none } (by rw [← drafted]; cases max <;> rfl),
    fields_optional_kept rfl rfl (fun n hn => optional_count_draft (whole.maxLength n hn) _)
      d (by rw [← drafted]; cases maxLength <;> rfl)]

theorem reader_draft {p : ParamSpec} (whole : p.Whole) {depth : Nat}
    (room : depth + 1 < Json.depthLimit) :
    reader depth p.toDocument.draft = .ok p.withoutNull := by
  obtain ⟨allowed, read, same⟩ := fields_members whole room
  rw [toDocument_eq, reader, record_object (Nat.lt_of_succ_lt room) read,
    ← p.finish_drafted same]
  · rfl
  · intro p h
    cases h
    rfl

end ParamSpec

namespace NodeSpec

theorem reader_draft {s : NodeSpec} (whole : s.Whole) :
    reader 0 s.toDocument.draft = .ok s.withoutNulls := by
  have params : list ParamSpec.reader 1 (Document.array (s.params.map ParamSpec.toDocument)).draft =
      .ok (s.params.map ParamSpec.withoutNull) := by
    rw [list_eq_ok_iff (by decide), List.forall₂_map_right_iff, List.forall₂_same]
    exact fun p hp => ParamSpec.reader_draft (whole p hp) (by decide)
  have read : fields slots 1 none {} (Document.draftMembers
        [("type", .text s.type), ("displayName", .text s.displayName),
          ("params", .array (s.params.map ParamSpec.toDocument)),
          ("sideEffects", s.sideEffects.toDocument)]) =
      .ok ⟨some s.type, some s.displayName, some s.withoutNulls.params, some s.sideEffects⟩ := by
    rw [fields_slot rfl rfl (text_draft _ _), fields_slot rfl rfl (text_draft _ _),
      fields_slot rfl rfl params, fields_slot rfl rfl (s.sideEffects.reader_draft (by decide))]
    rfl
  rw [toDocument, reader, record_object (by decide) read]
  · rfl
  · intro p h
    cases h
    rfl

end NodeSpec

/-! ### What is lost with a default value -/

namespace ParamSpec

theorem withoutNull_eq_self_iff {p : ParamSpec} :
    p.withoutNull = p ↔ p.defaultValue ≠ some .null := by
  obtain ⟨key, type, required, defaultValue, min, max, maxLength, allowedValues⟩ := p
  rcases defaultValue with _ | (_ | _ | _ | _) <;> simp [withoutNull, Value.isNull]

/-- A param that may be missing, or has another default value than null, is checked as before. -/
theorem check_withoutNull {p : ParamSpec}
    (kept : p.required = true → p.defaultValue ≠ some .null) (nodeId : String)
    (params : KeyMap Value) : p.withoutNull.check nodeId params = p.check nodeId params := by
  cases h : p.required with
  | true => rw [withoutNull_eq_self_iff.2 (kept h)]
  | false =>
    have off : p.withoutNull.required = false := h
    have key : p.withoutNull.key = p.key := rfl
    rw [check, check, key]
    cases presentParam? params p.key with
    | some v => rfl
    | none => simp [h, off]

def isDemanded (p : ParamSpec) : Bool := p.required && p.defaultValue.isNone

theorem isDemanded_withoutNull {p : ParamSpec} (demanded : p.isDemanded = true) :
    p.withoutNull.isDemanded = true := by
  obtain ⟨-, bare⟩ := Bool.and_eq_true_iff.1 demanded
  have bare : p.defaultValue = none := Option.isNone_iff_eq_none.1 bare
  rwa [withoutNull_eq_self_iff.2 (by simp [bare])]

end ParamSpec

namespace NodeSpec

theorem withoutNulls_eq_self_iff {s : NodeSpec} :
    s.withoutNulls = s ↔ ∀ p ∈ s.params, p.defaultValue ≠ some .null := by
  obtain ⟨type, displayName, params, sideEffects⟩ := s
  have same : params.map ParamSpec.withoutNull = params ↔ ∀ p ∈ params, p.withoutNull = p := by
    simpa using List.map_eq_map_iff (l := params) (f := ParamSpec.withoutNull) (g := id)
  simp only [withoutNulls, NodeSpec.mk.injEq, and_true, true_and, same,
    ParamSpec.withoutNull_eq_self_iff]

theorem param?_withoutNulls (s : NodeSpec) (key : String) :
    s.withoutNulls.param? key = (s.param? key).map ParamSpec.withoutNull := by
  rw [param?, withoutNulls, List.find?_map]
  rfl

theorem default?_withoutNulls (s : NodeSpec) (key : String) :
    s.withoutNulls.default? key = (s.default? key).filter (!·.isNull) := by
  rw [default?, default?, param?_withoutNulls]
  cases s.param? key <;> rfl

def KeepsRequired (s : NodeSpec) : Prop :=
  ∀ p ∈ s.params, p.required = true → p.defaultValue ≠ some .null

theorem paramIssues_withoutNulls {s : NodeSpec} (kept : s.KeepsRequired) (nodeId : String)
    (params : KeyMap Value) :
    paramIssues s.withoutNulls nodeId params = paramIssues s nodeId params := by
  have checks : s.withoutNulls.params.filterMap (·.check nodeId params) =
      s.params.filterMap (·.check nodeId params) := by
    rw [withoutNulls, List.filterMap_map]
    exact List.filterMap_congr fun p hp => ParamSpec.check_withoutNull (kept p hp) nodeId params
  simp only [paramIssues, checks, param?_withoutNulls, Option.isNone_map]

/-- A node without params misses all that it cannot do without. -/
theorem paramIssues_bare (s : NodeSpec) (nodeId : String) :
    paramIssues s nodeId .empty =
      (s.params.filter (·.isDemanded)).map fun p => .missingParam nodeId p.key := by
  have bare : paramIssues s nodeId .empty = s.params.filterMap fun p =>
      if p.isDemanded then some (.missingParam nodeId p.key) else none := rfl
  rw [bare]
  induction s.params with
  | nil => rfl
  | cons p ps ih => cases demanded : p.isDemanded <;> simp [demanded, ih]

theorem errors_of_bare (s : NodeSpec) (nodeId : String) :
    (Report.ofIssues (paramIssues s nodeId .empty)).errors =
      (s.params.filter (·.isDemanded)).map fun p => .missingParam nodeId p.key := by
  rw [Report.ofIssues, paramIssues_bare, List.filter_eq_self]
  intro issue h
  obtain ⟨p, -, rfl⟩ := List.mem_map.1 h
  rfl

/-- A required param whose default value is null is missed after the reading. -/
theorem keepsRequired_of_reports {s : NodeSpec} {nodeId : String}
    (same : Report.ofIssues (paramIssues s.withoutNulls nodeId .empty) =
      Report.ofIssues (paramIssues s nodeId .empty)) : s.KeepsRequired := by
  intro p hp required null
  have missed := congrArg (fun r : Report => r.errors.length) same
  simp only [errors_of_bare, List.length_map, withoutNulls, List.filter_map] at missed
  -- What is missed before is missed after, so it is the same when there is as much of it.
  have before : (s.params.filter (·.isDemanded)).Sublist
      (s.params.filter ((·.isDemanded) ∘ ParamSpec.withoutNull)) :=
    List.monotone_filter_right _ fun _ => ParamSpec.isDemanded_withoutNull
  have after : p ∈ s.params.filter ((·.isDemanded) ∘ ParamSpec.withoutNull) :=
    List.mem_filter.2 ⟨hp, by
      simp [ParamSpec.isDemanded, ParamSpec.withoutNull, required, null, Value.isNull]⟩
  rw [← before.eq_of_length missed.symm, List.mem_filter] at after
  simp [ParamSpec.isDemanded, null] at after

theorem reports_withoutNulls_iff {s : NodeSpec} :
    (∀ nodeId params, Report.ofIssues (paramIssues s.withoutNulls nodeId params) =
      Report.ofIssues (paramIssues s nodeId params)) ↔ s.KeepsRequired := by
  constructor
  · exact fun same => keepsRequired_of_reports (same "" .empty)
  · exact fun kept nodeId params => congrArg _ (paramIssues_withoutNulls kept nodeId params)

instance (s : NodeSpec) : Decidable s.KeepsRequired :=
  inferInstanceAs (Decidable (∀ p ∈ s.params, p.required = true → p.defaultValue ≠ some .null))

end NodeSpec

/-! ### The built-in types -/

namespace Catalog

theorem whole_spec (k : NodeKind) : (spec k).Whole := by
  cases k <;> decide +kernel

theorem keepsRequired_spec (k : NodeKind) : (spec k).KeepsRequired := by
  cases k <;> decide +kernel

theorem withoutNulls_spec_eq_iff (k : NodeKind) :
    (spec k).withoutNulls = spec k ↔ k ≠ .setField ∧ k ≠ .setState := by
  cases k <;> decide +kernel

end Catalog

/-- A node type with whole numbers, such as a built-in one, is read back from its JSON text as it
was, but for default values that are null. So it is read back as itself just if it has none of
these, and nodes are checked as before just if none of these is of a required param. The built-in
types are all checked as before, and all but two are read back as themselves. -/
theorem NodeSpec.read_without_nulls (s : NodeSpec) (whole : s.Whole ∨ ∃ k, s = Catalog.spec k) :
    Json.read reader s.toDocument.bytes = .ok s.withoutNulls ∧
      (s.withoutNulls = s ↔ ∀ p ∈ s.params, p.defaultValue ≠ some .null) ∧
      (∀ key, s.withoutNulls.default? key = (s.default? key).filter (!·.isNull)) ∧
      ((∀ nodeId params, Report.ofIssues (paramIssues s.withoutNulls nodeId params) =
        Report.ofIssues (paramIssues s nodeId params)) ↔ s.KeepsRequired) ∧
      ∀ k, s = Catalog.spec k →
        s.KeepsRequired ∧ (s.withoutNulls = s ↔ k ≠ .setField ∧ k ≠ .setState) := by
  have whole : s.Whole := by
    rcases whole with whole | ⟨k, rfl⟩
    · exact whole
    · exact Catalog.whole_spec k
  refine ⟨?_, withoutNulls_eq_self_iff, s.default?_withoutNulls, reports_withoutNulls_iff, ?_⟩
  · rw [Document.read_bytes, reader_draft whole]
  · rintro k rfl
    exact ⟨Catalog.keepsRequired_spec k, Catalog.withoutNulls_spec_eq_iff k⟩

/-- The type of requests is read back as it was. -/
theorem Catalog.read_written_curl :
    Json.read NodeSpec.reader (spec .curl).toDocument.bytes = .ok (spec .curl) := by
  obtain ⟨read, -, -, -, builtin⟩ := NodeSpec.read_without_nulls (spec .curl) (.inr ⟨.curl, rfl⟩)
  rw [read, (builtin .curl rfl).2.2 ⟨nofun, nofun⟩]

/-- The type that sets a field loses the default value of its value. -/
theorem Catalog.setField_default_lost :
    (spec .setField).Whole ∧ (spec .setField).default? "value" = some .null ∧
      ∃ s, Json.read NodeSpec.reader (spec .setField).toDocument.bytes = .ok s ∧
        s ≠ spec .setField ∧ s.default? "value" = none := by
  refine ⟨whole_spec _, by decide +kernel, (spec .setField).withoutNulls, ?_, ?_, ?_⟩
  · rw [Document.read_bytes, NodeSpec.reader_draft (whole_spec _)]
  · decide +kernel
  · decide +kernel

end PluginFlow
