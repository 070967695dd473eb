import PluginFlow.Proofs.Accepted
import PluginFlow.Proofs.Markers
import PluginFlow.Proofs.Url

/-!
The params that nodes use as texts without resolving them. In runs of a loaded flow such a text fits
its declaration, unless it has the form of a reference: that is never checked, and a node uses it as
it stands.
-/

namespace PluginFlow

theorem Text.trim_isPrefix {s : String} (first : ∀ c ∈ s.toList.head?, isBlank c = false) :
    (trim s).toList <+: s.toList := by
  have stripped := stripBoth_isPrefix isBlank s.toList
  rw [dropWhile_eq_self first] at stripped
  rwa [trim, String.toList_ofList]

/-- No operator of conditions is a reference, whatever blanks are around it. -/
theorem trim_not_mem_conditionOps {s : String} (h : isReference s = true) :
    Text.trim s ∉ conditionOps := by
  obtain ⟨m, hm, rest, marked⟩ := isReference_iff.1 h
  have hs : m.toList <+: s.toList := ⟨rest.toList, by rw [marked, String.toList_append]⟩
  have shown : ∀ m ∈ Reference.markers, m.toList.head?.map Text.isBlank = some false := by
    decide
  have apart : ∀ m ∈ Reference.markers, ∀ op ∈ conditionOps,
      ¬ m.toList <+: op.toList ∧ ¬ op.toList <+: m.toList := by
    decide
  obtain ⟨c, first, shown⟩ := Option.map_eq_some_iff.1 (shown m hm)
  intro ho
  have kept : (Text.trim s).toList <+: s.toList := by
    apply Text.trim_isPrefix
    obtain ⟨rest, hr⟩ := hs
    rw [← hr, List.head?_append, first]
    rintro _ ⟨⟩
    exact shown
  rcases List.prefix_or_prefix_of_prefix hs kept with h | h
  · exact (apart m hm _ ho).1 h
  · exact (apart m hm _ ho).2 h

theorem Operator.ofText?_of_not_mem {op : String} (h : op ∉ conditionOps) : ofText? op = none := by
  simp only [conditionOps, List.mem_cons, List.not_mem_nil, not_or] at h
  simp [ofText?, h]

namespace ParamSpec

def Textual (p : ParamSpec) : Prop := p.type = .string ∨ p.type = .enum

instance (p : ParamSpec) : Decidable p.Textual := inferInstanceAs (Decidable (_ ∨ _))

/-- A text that a declaration allows: a string that is not too long, or a value of an enum. -/
def Fits (p : ParamSpec) (s : String) : Prop :=
  p.type = .string ∧ (∀ max ∈ p.maxLength, s.toList.length ≤ max) ∨
    p.type = .enum ∧ s ∈ p.allowedValues

instance (p : ParamSpec) (s : String) : Decidable (p.Fits s) := inferInstanceAs (Decidable (_ ∨ _))

variable {p : ParamSpec} {nodeId : String} {v : Value}

theorem fits_of_not_rejects (textual : p.Textual) (h : ∀ i, ¬ p.Rejects nodeId v i) :
    p.Fits v.toText := by
  rcases textual with type | type
  · refine .inl ⟨type, fun max bound => Nat.le_of_not_lt fun long => ?_⟩
    exact h _ (.tooLong type bound long)
  · refine .inr ⟨type, Decidable.not_not.1 fun other => ?_⟩
    exact h _ (.notAllowed type other)

/-- No value is against its declaration by a warning. -/
theorem Rejects.isWarning_eq_false {i : Issue} (h : p.Rejects nodeId v i) :
    i.isWarning = false := by
  cases h <;> rfl

end ParamSpec

/-- The texts that the catalog supplies fit their declarations. -/
theorem Catalog.fits_default (k : NodeKind) :
    ∀ p ∈ params k, p.Textual → ∀ v ∈ p.defaultValue, p.Fits v.toText := by
  cases k <;> decide

/-- The built-in catalog supplies what the declarations of a kind say. -/
theorem Registry.default?_builtin {type key : String} {k : NodeKind} {v : Value}
    (kind : NodeKind.ofName? type = some k) (h : builtin.default? type key = some v) :
    (Catalog.spec k).default? key = some v := by
  obtain ⟨sp, known, hv⟩ := Option.bind_eq_some_iff.1 h
  obtain ⟨k', kind', rfl⟩ := builtin_spec? known
  cases kind.symm.trans kind'
  exact hv

/-- The params that a kind of node uses as texts without resolving them, each with the text that
takes the place of a blank one. A param without such a text is demanded. -/
def NodeKind.plainTexts : NodeKind → List (String × Option String)
  | ifElse | filter => [("op", some "==")]
  | setField => [("field", none)]
  | setState | increment => [("key", none)]
  | showToast => [("message", none), ("duration", some "short")]
  | showDialog => [("title", some ""), ("message", none), ("duration", some "short")]
  | navigate => [("screenId", none)]
  | showImage => [("screenId", some "image_viewer")]
  | emitMessage => [("messageType", some "")]
  | persistState => []
  | curl =>
    [("bodyKey", some "lastCurlBody"), ("statusKey", some "lastCurlStatus"),
      ("contentTypeKey", some "lastCurlContentType")]
  | ping => [("okKey", some "lastPingOk"), ("latencyKey", some "lastPingLatencyMs")]
  | captureImage => [("imageKey", some "lastImageBase64"), ("statusKey", some "lastImageStatus")]

/-- Each of these params is declared as a text, and what takes its place when it is blank fits. -/
theorem Catalog.declares_plainTexts (k : NodeKind) :
    ∀ x ∈ k.plainTexts, ∃ p, (spec k).param? x.1 = some p ∧ p.Textual ∧ ∀ s ∈ x.2, p.Fits s := by
  -- among the declarations of the kind, so that they can be searched
  have declared : ∀ x ∈ k.plainTexts, ∃ p ∈ params k,
      (spec k).param? x.1 = some p ∧ p.Textual ∧ ∀ s ∈ x.2, p.Fits s := by
    cases k <;> decide
  intro x hx
  obtain ⟨p, -, h⟩ := declared x hx
  exact ⟨p, h⟩

/-- No param of a node is against its declaration, unless it is a reference. -/
def Node.Checked (n : Node) (sp : NodeSpec) : Prop :=
  ∀ p ∈ sp.params, ∀ v, n.params.get? p.key = some v → v ≠ .null → ¬ v.Refers →
    ∀ i, ¬ p.Rejects n.id v i

/-- The params of the nodes of a loaded flow have been checked. -/
theorem Loader.checked_of_load {ω : Type} {l : Loader ω} {bytes : List UInt8} {g : Grants}
    {j : Journal ω} {lf : LoadedFlow} {n : Node} {sp : NodeSpec}
    (loaded : (l.load bytes g j).1 = .ok lf) (hn : n ∈ lf.definition.nodes)
    (known : l.registry.spec? n.type = some sp) : n.Checked sp := by
  obtain ⟨f, -, sound, rfl⟩ := load_eq_ok_iff.1 loaded
  intro p declared v given present literal i rejects
  have warned := Flow.errors_eq_nil_iff.1 sound i
    (.node hn (.param known (.rejected declared given present literal rejects)))
  rw [rejects.isWarning_eq_false] at warned
  cases warned

namespace Turn

def usedText? (t : Turn) (key : String) : Option String → Option String
  | some fallback => some (t.textParam key fallback)
  | none => (t.param? key).map Value.toText

/-- A text that a node uses for a declared param: it fits the declaration, or stands in the flow and
has the form of a reference. -/
def Suits (t : Turn) (p : ParamSpec) (s : String) : Prop :=
  p.Fits s ∨ isReference s = true ∧ t.node.params.get? p.key = some (.text s)

structure Vetted (t : Turn) (k : NodeKind) : Prop where
  catalog : t.registry = Registry.builtin
  kind : NodeKind.ofName? t.node.type = some k
  checked : t.node.Checked (Catalog.spec k)

namespace Vetted

variable {t : Turn} {k : NodeKind} {key : String} {p : ParamSpec}

theorem suits_param? (h : t.Vetted k) (declared : (Catalog.spec k).param? key = some p)
    (textual : p.Textual) {v : Value} (hv : t.param? key = some v) : t.Suits p v.toText := by
  have mem : p ∈ Catalog.params k := List.mem_of_find?_eq_some declared
  obtain rfl : p.key = key := by simpa using List.find?_some declared
  rcases Option.or_eq_some_iff.1 hv with given | ⟨-, supplied⟩
  · obtain ⟨given, present⟩ := ParamSpec.presentParam?_eq_some_iff.1 given
    by_cases refers : v.Refers
    · obtain ⟨s, rfl, reference⟩ := refers
      exact .inr ⟨reference, given⟩
    · exact .inl (ParamSpec.fits_of_not_rejects textual (h.checked p mem v given present refers))
  · rw [h.catalog] at supplied
    have default := Registry.default?_builtin h.kind supplied
    rw [NodeSpec.default?, declared] at default
    exact .inl (Catalog.fits_default k p mem textual v default)

theorem suits_textParam (h : t.Vetted k) (declared : (Catalog.spec k).param? key = some p)
    (textual : p.Textual) {fallback : String} (fits : p.Fits fallback) :
    t.Suits p (t.textParam key fallback) := by
  unfold textParam
  cases used : ((t.param? key).map Value.toText).filter fun s => !Text.isBlankText s with
  | none => exact .inl fits
  | some s =>
    obtain ⟨v, hv, rfl⟩ := Option.map_eq_some_iff.1 (Option.filter_eq_some_iff.1 used).1
    exact h.suits_param? declared textual hv

/-- Every text that a node uses without resolving it belongs to a declared param and suits it. -/
theorem suits_usedText? (h : t.Vetted k) {x : String × Option String} (hx : x ∈ k.plainTexts)
    {s : String} (used : t.usedText? x.1 x.2 = some s) :
    ∃ p, (Catalog.spec k).param? x.1 = some p ∧ t.Suits p s := by
  obtain ⟨p, declared, textual, fits⟩ := Catalog.declares_plainTexts k x hx
  refine ⟨p, declared, ?_⟩
  obtain ⟨key, fallback⟩ := x
  cases fallback with
  | some fallback =>
    cases used
    exact h.suits_textParam declared textual (fits fallback rfl)
  | none =>
    obtain ⟨v, hv, rfl⟩ := Option.map_eq_some_iff.1 used
    exact h.suits_param? declared textual hv

end Vetted

/-- A condition whose operator is a reference holds of nothing. -/
theorem holds_of_isReference {t : Turn} (h : isReference (t.textParam "op" "==") = true)
    (current : Option Item) : t.holds current = false := by
  rw [holds, evaluate, compareValues,
    Operator.ofText?_of_not_mem (trim_not_mem_conditionOps h)]

/-- The operator of a condition is one of the seven, or a reference. -/
theorem Vetted.operator {t : Turn} {k : NodeKind} (h : t.Vetted k)
    (condition : k = .ifElse ∨ k = .filter) :
    t.textParam "op" "==" ∈ conditionOps ∨ isReference (t.textParam "op" "==") = true := by
  have declared : (Catalog.spec k).param? "op" = some (Catalog.choice "op" conditionOps "==") := by
    rcases condition with rfl | rfl <;> rfl
  have fits : (Catalog.choice "op" conditionOps "==").Fits "==" := by decide
  rcases h.suits_textParam declared (by decide) fits with fits | ⟨reference, -⟩
  · rcases fits with ⟨type, -⟩ | ⟨-, allowed⟩
    · cases type
    · exact .inl allowed
  · exact .inr reference

end Turn

namespace Engine

variable {σ ω ω' : Type} {e : Engine σ ω} {l : Loader ω'} {bytes : List UInt8} {g : Grants}
  {j : Journal ω'} {lf : LoadedFlow}

/-- In a run of a loaded flow every node is of a built-in kind and has had its params checked. -/
theorem Runs.vetted (builtin : l.registry = Registry.builtin)
    (loaded : (l.load bytes g j).1 = .ok lf) (catalog : e.registry = Registry.builtin)
    {trigger : Trigger} {c : Context} {s : Session σ ω} {turns : List Turn} {w : Walked σ ω}
    (h : e.Runs lf.definition trigger c s turns w) {t : Turn} (ht : t ∈ turns) :
    ∃ k, t.Vetted k := by
  obtain ⟨n, hn, q, rfl⟩ := h.exists_turnAt ht
  obtain ⟨sp, admissible⟩ := (Loader.accepted_of_load loaded).admissible n hn
  have known := admissible.known
  have checked := Loader.checked_of_load loaded hn known
  rw [builtin] at known
  obtain ⟨k, kind, rfl⟩ := Registry.builtin_spec? known
  exact ⟨k, catalog, kind, checked⟩

/-- Every text that a node of a loaded flow uses for a param without resolving it fits the
declaration of the param, or stands in the flow and has the form of a reference. So a condition
compares by one of the seven operators, or by the text of a reference, and then it holds of
nothing. -/
theorem loaded_texts_suit (builtin : l.registry = Registry.builtin)
    (loaded : (l.load bytes g j).1 = .ok lf) (e : Engine σ ω)
    (catalog : e.registry = Registry.builtin) (trigger : Trigger) (c : Context)
    (s : Session σ ω) :
    ∃ turns w, e.Runs lf.definition trigger c s turns w ∧
      ∀ t ∈ turns, ∃ k, NodeKind.ofName? t.node.type = some k ∧
        (∀ x ∈ k.plainTexts, ∀ text, t.usedText? x.1 x.2 = some text →
          ∃ p, (Catalog.spec k).param? x.1 = some p ∧ t.Suits p text) ∧
        (k = .ifElse ∨ k = .filter →
          t.textParam "op" "==" ∈ conditionOps ∨
            isReference (t.textParam "op" "==") = true ∧ ∀ current, t.holds current = false) := by
  obtain ⟨turns, w, h⟩ := exists_runs e lf.definition trigger c s
  refine ⟨turns, w, h, fun t ht => ?_⟩
  obtain ⟨k, vetted⟩ := h.vetted builtin loaded catalog ht
  refine ⟨k, vetted.kind, fun x hx text used => vetted.suits_usedText? hx used, ?_⟩
  intro condition
  rcases vetted.operator condition with known | reference
  · exact .inl known
  · exact .inr ⟨reference, Turn.holds_of_isReference reference⟩

end Engine

namespace Flow

def onKeep : Trigger := { type := .onClick, startNodeId := "keep" }

def keeper (op : String) : Node :=
  { id := "keep", type := "Filter",
    params := .ofList [("left", .text "1"), ("op", .text op), ("right", .text "1")] }

def keeping (op : String) : Flow :=
  { id := "keeping", triggers := [onKeep], nodes := [keeper op] }

def keepingBytes (op : String) : List UInt8 := Text.Utf8.encode (keeping op).toDocument.compact

end Flow

def Session.withOperator : Session Unit Unit :=
  { Session.fresh with state := .ofList [("op", .text "==")] }

namespace Engine

theorem keeping_texts_suit :
    ∃ turns w, plain.Runs (Flow.keeping "==") Flow.onKeep {} .fresh turns w ∧
      ∀ t ∈ turns, ∃ k, NodeKind.ofName? t.node.type = some k ∧
        (∀ x ∈ k.plainTexts, ∀ text, t.usedText? x.1 x.2 = some text →
          ∃ p, (Catalog.spec k).param? x.1 = some p ∧ t.Suits p text) ∧
        (k = .ifElse ∨ k = .filter →
          t.textParam "op" "==" ∈ conditionOps ∨
            isReference (t.textParam "op" "==") = true ∧ ∀ current, t.holds current = false) := by
  have loaded : (Loader.plain.load (Flow.keepingBytes "==") .empty ⟨(), []⟩).1 =
      .ok ⟨Flow.keeping "==", .empty, [], (Flow.keeping "==").hash⟩ :=
    Loader.load_of_sound (by decide +kernel) (by decide +kernel)
  exact loaded_texts_suit rfl loaded plain rfl Flow.onKeep {} .fresh

/-- A flow that leaves its operator to the state is loaded, and its node compares by the text of the
reference. The operator in the state is not looked up, and the row is not kept. -/
theorem keeping_by_reference :
    (Loader.plain.load (Flow.keepingBytes "state.op") .empty ⟨(), []⟩).1 =
        .ok ⟨Flow.keeping "state.op", .empty, [], (Flow.keeping "state.op").hash⟩ ∧
      ∃ t w, plain.Runs (Flow.keeping "state.op") Flow.onKeep {} .withOperator [t] w ∧
        NodeKind.ofName? t.node.type = some .filter ∧ t.textParam "op" "==" = "state.op" ∧
        "state.op" ∉ conditionOps ∧
        ¬ (Catalog.choice "op" conditionOps "==").Fits "state.op" ∧
        t.state.get? "op" = some (.text "==") ∧ t.context.items = [.empty] ∧
        (plain.execute (Flow.keeping "state.op") Flow.onKeep {} .withOperator).1.items = [] := by
  refine ⟨Loader.load_of_sound (by decide +kernel) (by decide +kernel), _, _,
    .admitted (by decide +kernel) (.onward (by decide) ⟨rfl, by decide⟩ (by rfl) rfl
      (.finished ?_)), by decide, by decide, by decide, by decide, by decide, rfl,
    by decide +kernel⟩
  intro id h
  cases h

end Engine
end PluginFlow
