import PluginFlow.Catalog.Builtin
import PluginFlow.Proofs.Findings

/-!
What the checks of a flow establish: where it may start and go on, and that every node is of a
known type, has the params it demands and needs no effect that is not granted.
-/

namespace PluginFlow

namespace Registry

theorem mem_of_spec?_foldl {specs : List NodeSpec} {r : Registry} {type : String} {sp : NodeSpec}
    (h : (specs.foldl register r).spec? type = some sp) :
    (sp ∈ specs ∧ sp.type = type) ∨ r.spec? type = some sp := by
  induction specs generalizing r with
  | nil => exact .inr h
  | cons s specs ih =>
    rcases ih h with ⟨hm, ht⟩ | hr
    · exact .inl ⟨List.mem_cons_of_mem _ hm, ht⟩
    · rw [spec?, register, KeyMap.get?_insert] at hr
      split at hr
      · rename_i ht
        cases hr
        exact .inl ⟨List.mem_cons_self, ht.symm⟩
      · exact .inr hr

/-- The built-in types are those of the catalog. -/
theorem builtin_spec? {type : String} {sp : NodeSpec} (h : builtin.spec? type = some sp) :
    ∃ k, NodeKind.ofName? type = some k ∧ sp = Catalog.spec k := by
  rcases mem_of_spec?_foldl h with ⟨hm, ht⟩ | he
  · obtain ⟨k, -, rfl⟩ := List.mem_map.1 hm
    refine ⟨k, ?_, rfl⟩
    rw [← ht]
    exact k.ofName?_name
  · cases he

end Registry

theorem EffectSet.contains_foldl_insert (es : List SideEffect) (s : EffectSet) (x : SideEffect) :
    (es.foldl insert s).contains x = true ↔ x ∈ es ∨ s.contains x = true := by
  induction es generalizing s with
  | nil => simp
  | cons e es ih =>
    rw [List.foldl_cons, ih, contains_insert]
    simp only [Bool.or_eq_true, beq_iff_eq, List.mem_cons, or_assoc]
    exact or_left_comm

theorem EffectSet.contains_ofList {es : List SideEffect} {x : SideEffect} :
    (ofList es).contains x = true ↔ x ∈ es := by
  rw [ofList, contains_foldl_insert]
  cases x <;> simp [empty, contains]

/-- What a catalog and grants ask of one node. -/
structure Node.Admissible (registry : Registry) (grants : Grants) (n : Node) (sp : NodeSpec) :
    Prop where
  known : registry.spec? n.type = some sp
  supplied : ∀ p ∈ sp.params, p.required = true → p.defaultValue = none →
    ∃ v, presentParam? n.params p.key = some v
  granted : ∀ x, sp.sideEffects.contains x = true → grants.allows x = true

/-- A flow that starts and goes on at its own nodes only, all of which are admissible. -/
structure Flow.Accepted (registry : Registry) (grants : Grants) (f : Flow) : Prop where
  starts : ∀ t ∈ f.triggers, t.startNodeId ∈ f.nodeIds
  leads : ∀ n ∈ f.nodes, ∀ id ∈ n.successors, id ∈ f.nodeIds
  admissible : ∀ n ∈ f.nodes, ∃ sp, n.Admissible registry grants sp

namespace Flow

variable {f : Flow} {registry : Registry} {grants : Grants}

/-- A node without errors is admissible. -/
theorem admissible_of_sound {n : Node} (hn : n ∈ f.nodes)
    (sound : ∀ i, f.Problem registry grants i → i.isWarning = true) :
    ∃ sp, n.Admissible registry grants sp := by
  cases known : registry.spec? n.type with
  | none => cases sound _ (.node hn (.unknownNodeType known))
  | some sp =>
    refine ⟨sp, known, ?_, ?_⟩
    · intro p declared required bare
      cases present : presentParam? n.params p.key with
      | some v => exact ⟨v, rfl⟩
      | none =>
        have absent := ParamSpec.presentParam?_eq_none_iff.1 present
        cases sound _ (.node hn (.param known (.missing declared required bare absent)))
    · intro x has
      cases granted : grants.allows x with
      | true => rfl
      | false => cases sound _ (.node hn (.sideEffectNotGranted known has granted))

/-- A flow without errors is accepted. -/
theorem accepted_of_sound (sound : ∀ i, f.Problem registry grants i → i.isWarning = true) :
    f.Accepted registry grants := by
  refine ⟨?_, ?_, fun n hn => admissible_of_sound hn sound⟩
  · intro t ht
    by_cases hs : t.startNodeId ∈ f.nodeIds
    · exact hs
    · cases sound _ (.missingStartNode ht hs)
  · intro n hn id hid
    obtain ⟨refers, visible⟩ := Node.mem_successors_iff.1 hid
    by_cases hs : id ∈ f.nodeIds
    · exact hs
    · cases sound _ (.node hn (.danglingReference refers visible hs))

end Flow

/-- What a loader gives has passed its checks. -/
theorem Loader.accepted_of_load {ω : Type} {l : Loader ω} {bytes : List UInt8} {g : Grants}
    {j : Journal ω} {lf : LoadedFlow} (h : (l.load bytes g j).1 = .ok lf) :
    lf.definition.Accepted l.registry g := by
  obtain ⟨f, -, sound, rfl⟩ := load_eq_ok_iff.1 h
  exact Flow.accepted_of_sound (Flow.errors_eq_nil_iff.1 sound)

/-- An admissible node of the built-in catalog is of one of its kinds; the params that its kind
demands are supplied and the effects of its kind are granted. -/
theorem Node.Admissible.kind {g : Grants} {n : Node} {sp : NodeSpec}
    (h : n.Admissible Registry.builtin g sp) :
    ∃ k, NodeKind.ofName? n.type = some k ∧
      (∀ p ∈ Catalog.params k, p.required = true → p.defaultValue = none →
        ∃ v, presentParam? n.params p.key = some v) ∧
      ∀ x ∈ Catalog.effects k, g.allows x = true := by
  obtain ⟨k, hk, rfl⟩ := Registry.builtin_spec? h.known
  exact ⟨k, hk, h.supplied, fun x hx => h.granted x (EffectSet.contains_ofList.2 hx)⟩

namespace Flow

def onClick : Trigger := { type := .onClick, startNodeId := "toast" }

def greeting : Flow :=
  { id := "greeting", triggers := [onClick],
    nodes :=
      [{ id := "toast", type := "ShowToast",
         params := .ofList [("message", .text "Hello")] }] }

def greetingBytes : List UInt8 := Text.Utf8.encode greeting.toDocument.compact

end Flow

def Loader.plain : Loader Unit := ⟨Registry.builtin, .dropping⟩

theorem Loader.load_greeting :
    (plain.load Flow.greetingBytes (.ofList [.ui]) ⟨(), []⟩).1 =
      .ok ⟨Flow.greeting, .ofList [.ui], [], Flow.greeting.hash⟩ :=
  load_of_sound (by decide +kernel) (by decide +kernel)

end PluginFlow
