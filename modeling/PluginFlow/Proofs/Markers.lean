import PluginFlow.Catalog.Builtin
import PluginFlow.Validation

/-!
What counts as a reference when a flow is checked, and what is one in a run. The texts of references
are all marked as such. So are the texts that begin with `action.` and refer to nothing: their
checks are left out, but a run takes them as they are.
-/

namespace PluginFlow

namespace Text

theorem dropPrefixText?_eq_some {p s rest : String} :
    dropPrefixText? p s = some rest ↔ s = p ++ rest := by
  simp only [dropPrefixText?, Option.map_eq_some_iff, dropPrefix?_eq_some]
  constructor
  · rintro ⟨cs, h, rfl⟩
    rw [← String.toList_inj, h, String.toList_append, String.toList_ofList]
  · rintro rfl
    exact ⟨rest.toList, String.toList_append, String.ofList_toList⟩

/-- A text does not begin with a text that parts from its own beginning. -/
theorem dropPrefixText?_eq_none {p q : String}
    (apart : ¬ p.toList <+: q.toList ∧ ¬ q.toList <+: p.toList) (rest : String) :
    dropPrefixText? p (q ++ rest) = none := by
  rw [Option.eq_none_iff_forall_ne_some]
  intro rest' h
  have h := congrArg String.toList (dropPrefixText?_eq_some.1 h)
  rw [String.toList_append, String.toList_append] at h
  have begins : p.toList <+: q.toList ++ rest.toList := ⟨rest'.toList, h.symm⟩
  rcases List.prefix_or_prefix_of_prefix begins (List.prefix_append _ _) with h | h
  · exact apart.1 h
  · exact apart.2 h

end Text

/-- A text that is marked as a reference begins with one of the markers. -/
theorem isReference_iff {s : String} :
    isReference s = true ↔ ∃ m ∈ Reference.markers, ∃ rest, s = m ++ rest := by
  simp only [isReference, List.any_eq_true, Option.isSome_iff_exists,
    Text.dropPrefixText?_eq_some]

namespace Reference

def source : Reference → String
  | state key => "state." ++ key
  | item key => "item." ++ key
  | data key => "action.data." ++ key
  | targetId => "action.targetId"
  | asset path => "asset:" ++ path

/-- A text spells a reference exactly when it is the text of it. -/
theorem ofText?_eq_some_iff {s : String} {r : Reference} : ofText? s = some r ↔ s = r.source := by
  constructor
  · intro spelled
    simp only [ofText?, Option.or_eq_some_iff, Option.map_eq_some_iff,
      Text.dropPrefixText?_eq_some] at spelled
    rcases spelled with ⟨_, rfl, rfl⟩ | ⟨-, ⟨_, rfl, rfl⟩ | ⟨-, ⟨_, rfl, rfl⟩ | ⟨-, h | ⟨-, _, rfl, rfl⟩⟩⟩⟩
    · rfl
    · rfl
    · rfl
    · split at h
      · cases h
        assumption
      · cases h
    · rfl
  · rintro rfl
    have own (p rest : String) : Text.dropPrefixText? p (p ++ rest) = some rest :=
      Text.dropPrefixText?_eq_some.2 rfl
    cases r with
    | state key =>
      rw [ofText?, source, own]
      rfl
    | item key =>
      rw [ofText?, source, Text.dropPrefixText?_eq_none (by decide), own]
      rfl
    | data key =>
      rw [ofText?, source, Text.dropPrefixText?_eq_none (by decide),
        Text.dropPrefixText?_eq_none (by decide), own]
      rfl
    | targetId => rfl
    | asset path =>
      have other : "asset:" ++ path ≠ "action.targetId" := by
        intro h
        have begins := Text.dropPrefixText?_eq_some.2 h.symm
        have parted : Text.dropPrefixText? "asset:" "action.targetId" = none := by decide
        rw [parted] at begins
        cases begins
      rw [ofText?, source, Text.dropPrefixText?_eq_none (by decide),
        Text.dropPrefixText?_eq_none (by decide), Text.dropPrefixText?_eq_none (by decide),
        if_neg other, own]
      rfl

/-- Marked as a reference, but the text of none. -/
def Stray (s : String) : Prop := (∃ rest, s = "action." ++ rest) ∧ ∀ r : Reference, s ≠ r.source

end Reference

/-- The texts of references are marked, and the stray ones beside them. -/
theorem isReference_iff_source {s : String} :
    isReference s = true ↔ (∃ r : Reference, s = r.source) ∨ Reference.Stray s := by
  rw [isReference_iff]
  constructor
  · rintro ⟨m, hm, rest, rfl⟩
    simp only [Reference.markers, List.mem_cons, List.not_mem_nil, or_false] at hm
    rcases hm with rfl | rfl | rfl | rfl
    · exact .inl ⟨.state rest, rfl⟩
    · exact .inl ⟨.item rest, rfl⟩
    · by_cases h : ∃ r : Reference, "action." ++ rest = r.source
      · exact .inl h
      · exact .inr ⟨⟨rest, rfl⟩, not_exists.1 h⟩
    · exact .inl ⟨.asset rest, rfl⟩
  · rintro (⟨r, rfl⟩ | ⟨⟨rest, rfl⟩, -⟩)
    · cases r with
      | state key => exact ⟨"state.", by decide, key, rfl⟩
      | item key => exact ⟨"item.", by decide, key, rfl⟩
      | data key =>
        refine ⟨"action.", by decide, "data." ++ key, ?_⟩
        rw [Reference.source, ← String.append_assoc]
        rfl
      | targetId => exact ⟨"action.", by decide, "targetId", by decide⟩
      | asset path => exact ⟨"asset:", by decide, path, rfl⟩
    · exact ⟨"action.", by decide, rest, rfl⟩

namespace Scope

variable {s : String}

theorem resolve_text_of_ne_source (other : ∀ r : Reference, s ≠ r.source) (scope : Scope)
    (current : Option Item) : scope.resolve current (.text s) = .text s := by
  have unspelled : Reference.ofText? s = none :=
    Option.eq_none_iff_forall_ne_some.2 fun r h => other r (Reference.ofText?_eq_some_iff.1 h)
  simp only [resolve, unspelled]

/-- A text may stand for something else exactly when it is that of a reference. Where there is
nothing to refer to, the null value is found. -/
theorem exists_resolve_text_ne_iff :
    (∃ (scope : Scope) (current : Option Item), scope.resolve current (.text s) ≠ .text s) ↔
      ∃ r : Reference, s = r.source := by
  constructor
  · rintro ⟨scope, current, differs⟩
    by_cases spelled : ∃ r : Reference, s = r.source
    · exact spelled
    · exact absurd (resolve_text_of_ne_source (not_exists.1 spelled) scope current) differs
  · rintro ⟨r, rfl⟩
    refine ⟨⟨.empty, { items := [] }, {}⟩, none, ?_⟩
    have spelled := Reference.ofText?_eq_some_iff.2 (rfl : r.source = r.source)
    have nothing : resolve ⟨.empty, { items := [] }, {}⟩ none (.text r.source) = .null := by
      simp only [resolve, spelled]
      cases r <;> rfl
    rw [nothing]
    exact Value.noConfusion

end Scope

/-- Only what is marked passes every declaration. An enumeration without values lets nothing else
through. -/
theorem ParamSpec.issue?_text_eq_none_iff {s : String} :
    (∀ (p : ParamSpec) (nodeId : String), p.issue? nodeId (.text s) = none) ↔
      isReference s = true := by
  constructor
  · intro passes
    cases literal : isReference s with
    | true => rfl
    | false =>
      have rejected := passes { key := "", type := .enum } ""
      simp [issue?, Value.asText?, literal] at rejected
  · intro marked p nodeId
    simp [issue?, Value.asText?, marked]

/-- The check of a flow passes over the texts that a run may replace and over those that begin with
`action.` and are the text of no reference. A run takes the latter as they are, in whatever state
and context, though no declaration was held against them. -/
theorem marked_iff_replaced_or_stray (s : String) :
    (isReference s = true ↔
      (∃ (scope : Scope) (current : Option Item), scope.resolve current (.text s) ≠ .text s) ∨
        Reference.Stray s) ∧
    (Reference.Stray s → ∀ (scope : Scope) (current : Option Item),
      scope.resolve current (.text s) = .text s) ∧
    (isReference s = true ↔
      ∀ (p : ParamSpec) (nodeId : String), p.issue? nodeId (.text s) = none) := by
  refine ⟨?_, fun stray => Scope.resolve_text_of_ne_source stray.2,
    ParamSpec.issue?_text_eq_none_iff.symm⟩
  rw [isReference_iff_source, Scope.exists_resolve_text_ne_iff]

/-- A text that falls short of the target of the event stays what it is. -/
theorem stray_target_kept :
    Reference.Stray "action.target" ∧ ∀ (scope : Scope) (current : Option Item),
      scope.resolve current (.text "action.target") = .text "action.target" := by
  have unspelled : Reference.ofText? "action.target" = none := by decide
  have stray : Reference.Stray "action.target" := by
    refine ⟨⟨"target", by decide⟩, fun r h => ?_⟩
    rw [Reference.ofText?_eq_some_iff.2 h] at unspelled
    cases unspelled
  exact ⟨stray, (marked_iff_replaced_or_stray "action.target").2.1 stray⟩

/-- A text that refers to nothing is marked and taken for a port, which it is not. -/
theorem stray_port_passes :
    isReference "action.x" = true ∧
      (∀ (scope : Scope) (current : Option Item),
        scope.resolve current (.text "action.x") = .text "action.x") ∧
      (Catalog.integer "port" 1 65535 443).issue? "ping" (.text "action.x") = none ∧
      (Value.text "action.x").asInteger? = none :=
  ⟨by decide, fun _ _ => rfl, by decide, by decide⟩

end PluginFlow
