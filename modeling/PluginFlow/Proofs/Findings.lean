import PluginFlow.Proofs.Trail
import PluginFlow.Loader

/-!
The checks of a flow are exact: each finding is a problem of the flow, and each problem is found.
A loader accepts what it can read and finds no error in, and records nothing else.
-/

namespace PluginFlow

def Value.Refers (v : Value) : Prop := ∃ s, v = .text s ∧ isReference s = true

theorem Value.refers_iff {v : Value} :
    v.Refers ↔ (v.asText?.map isReference).getD false = true := by
  cases v <;> simp [Refers, asText?]

namespace ParamSpec

inductive Reads (p : ParamSpec) (v : Value) : Number → Prop
  | integer {i : Int} (type : p.type = .long) (read : v.asInteger? = some i) :
      Reads p v (Number.ofInt i)
  | number {x : Number} (type : p.type = .double) (read : v.asNumber? = some x) : Reads p v x

def Excludes (p : ParamSpec) (x : Number) : Prop :=
  (∃ lo, p.min = some lo ∧ x.less lo = true) ∨ ∃ hi, p.max = some hi ∧ hi.less x = true

/-- What a declaration has against a value, in the name of a node. -/
inductive Rejects (p : ParamSpec) (nodeId : String) (v : Value) : Issue → Prop
  | tooLong {max : Nat} (type : p.type = .string) (bound : p.maxLength = some max)
      (long : max < v.toText.toList.length) : Rejects p nodeId v (.tooLong nodeId p.key max)
  | noTruth (type : p.type = .boolean) (unread : v.asBool? = none) :
      Rejects p nodeId v (.invalidType nodeId p.key p.type v.toText)
  | noNumber (type : p.type = .long ∨ p.type = .double) (unread : ∀ x, ¬ p.Reads v x) :
      Rejects p nodeId v (.invalidType nodeId p.key p.type v.toText)
  | outOfRange {x : Number} (read : p.Reads v x) (outside : p.Excludes x) :
      Rejects p nodeId v (.outOfRange nodeId p.key x (p.min.getD (.infinite true))
        (p.max.getD (.infinite false)))
  | notAllowed (type : p.type = .enum) (other : v.toText ∉ p.allowedValues) :
      Rejects p nodeId v (.notAllowed nodeId p.key v.toText p.allowedValues)

end ParamSpec

/-- What is wrong with a param that a node type declares. A value is wrong when it is present, no
reference and against the declaration. -/
inductive Node.ParamProblem (n : Node) (sp : NodeSpec) : Issue → Prop
  | missing {p : ParamSpec} (declared : p ∈ sp.params) (required : p.required = true)
      (bare : p.defaultValue = none) (absent : ∀ v, n.params.get? p.key = some v → v = .null) :
      ParamProblem n sp (.missingParam n.id p.key)
  | rejected {p : ParamSpec} {v : Value} {i : Issue} (declared : p ∈ sp.params)
      (given : n.params.get? p.key = some v) (present : v ≠ .null) (literal : ¬ v.Refers)
      (rejects : p.Rejects n.id v i) : ParamProblem n sp i
  | undeclared {key : String} {v : Value} (given : n.params.get? key = some v)
      (unknown : ∀ p ∈ sp.params, p.key ≠ key) : ParamProblem n sp (.unknownParam n.id key)

inductive Flow.NodeProblem (f : Flow) (registry : Registry) (grants : Grants) (n : Node) :
    Issue → Prop
  | danglingReference {target : String}
      (refers : n.next = some target ∨ n.nextTrue = some target ∨ n.nextFalse = some target)
      (visible : Text.isBlankText target = false) (absent : target ∉ f.nodeIds) :
      NodeProblem f registry grants n (.danglingReference n.id target)
  | unknownNodeType (unregistered : registry.spec? n.type = none) :
      NodeProblem f registry grants n (.unknownNodeType n.id n.type)
  | param {sp : NodeSpec} {i : Issue} (registered : registry.spec? n.type = some sp)
      (problem : n.ParamProblem sp i) : NodeProblem f registry grants n i
  | sideEffectNotGranted {sp : NodeSpec} {x : SideEffect}
      (registered : registry.spec? n.type = some sp) (has : sp.sideEffects.contains x = true)
      (denied : grants.allows x = false) :
      NodeProblem f registry grants n (.sideEffectNotGranted n.id x)

inductive Flow.Problem (f : Flow) (registry : Registry) (grants : Grants) : Issue → Prop
  | emptyFlowId (blank : ∀ c ∈ f.id.toList, Text.isBlank c = true) :
      Problem f registry grants .emptyFlowId
  | duplicateNodeId {id : String} (repeated : 1 < f.nodeIds.count id) :
      Problem f registry grants (.duplicateNodeId id)
  | missingStartNode {t : Trigger} (declared : t ∈ f.triggers)
      (absent : t.startNodeId ∉ f.nodeIds) :
      Problem f registry grants (.missingStartNode t.type.name t.startNodeId)
  | node {n : Node} {i : Issue} (declared : n ∈ f.nodes)
      (problem : f.NodeProblem registry grants n i) : Problem f registry grants i

namespace Number

theorem position?_bounds {x : Number} {i : Int} (h : x.position? = some i) :
    -(ceiling : Int) ≤ i ∧ i ≤ ceiling := by
  cases x with
  | nan => cases h
  | infinite s =>
    cases h
    cases s <;> simp only [signed, Bool.false_eq_true, if_false, if_true] <;> omega
  | finite s u fits =>
    cases h
    have := fits.1
    cases s <;> simp only [signed, Bool.false_eq_true, if_false, if_true] <;> omega

/-- Nothing is less than the least number. -/
theorem not_less_least (x : Number) : x.less (.infinite true) = false := by
  have least : (infinite true).position? = some (-(ceiling : Int)) := rfl
  cases hx : x.position? with
  | none => simp only [less, related, hx]
  | some i =>
    have := (position?_bounds hx).1
    simp only [less, related, hx, least, decide_eq_false_iff_not]
    omega

/-- The greatest number is less than nothing. -/
theorem not_greatest_less (x : Number) : less (.infinite false) x = false := by
  have greatest : (infinite false).position? = some (ceiling : Int) := rfl
  cases hx : x.position? with
  | none => simp only [less, related, hx, greatest]
  | some i =>
    have := (position?_bounds hx).2
    simp only [less, related, hx, greatest, decide_eq_false_iff_not]
    omega

end Number

namespace ParamSpec

variable {p : ParamSpec} {nodeId : String} {v : Value}

/-- A missing bound excludes nothing. -/
theorem excludes_iff {x : Number} :
    p.Excludes x ↔ (x.less p.bounds.1 || p.bounds.2.less x) = true := by
  unfold Excludes bounds
  cases p.min <;> cases p.max <;> simp [Number.not_less_least, Number.not_greatest_less]

theorem reads_iff {x : Number} (numeric : p.type = .long ∨ p.type = .double) :
    p.Reads v x ↔ p.numericValue? v = some x := by
  constructor
  · intro h
    cases h with
    | integer type read => simp [numericValue?, type, read]
    | number type read => simp [numericValue?, type, read]
  · intro h
    rcases numeric with type | type
    · simp only [numericValue?, type, if_true, Option.map_eq_some_iff] at h
      obtain ⟨i, read, rfl⟩ := h
      exact .integer type read
    · simp only [numericValue?, type, reduceCtorEq, if_false] at h
      exact .number type h

theorem not_reads_iff (numeric : p.type = .long ∨ p.type = .double) :
    (∀ x, ¬ p.Reads v x) ↔ p.numericValue? v = none := by
  simp only [reads_iff numeric, Option.eq_none_iff_forall_ne_some]

theorem numeric_of_reads {x : Number} (h : p.Reads v x) : p.type = .long ∨ p.type = .double := by
  cases h with
  | integer type _ => exact .inl type
  | number type _ => exact .inr type

/-- The check of a numeric param. -/
theorem issue?_of_numeric (numeric : p.type = .long ∨ p.type = .double) (literal : ¬ v.Refers) :
    p.issue? nodeId v =
      match p.numericValue? v with
      | none => some (.invalidType nodeId p.key p.type v.toText)
      | some x =>
        if x.less p.bounds.1 || p.bounds.2.less x then
          some (.outOfRange nodeId p.key x p.bounds.1 p.bounds.2)
        else none := by
  rw [Value.refers_iff] at literal
  cases p
  rcases numeric with type | type
  · cases type
    exact if_neg literal
  · cases type
    exact if_neg literal

theorem rejects_of_numeric {i : Issue} (numeric : p.type = .long ∨ p.type = .double)
    (literal : ¬ v.Refers) (h : p.issue? nodeId v = some i) : p.Rejects nodeId v i := by
  rw [issue?_of_numeric numeric literal] at h
  split at h
  · rename_i unread
    cases h
    exact .noNumber numeric ((not_reads_iff numeric).2 unread)
  · rename_i x read
    rw [Option.ite_none_right_eq_some] at h
    obtain ⟨outside, h⟩ := h
    cases h
    exact .outOfRange ((reads_iff numeric).2 read) (excludes_iff.2 outside)

theorem rejects_of_issue? {i : Issue} (literal : ¬ v.Refers) (h : p.issue? nodeId v = some i) :
    p.Rejects nodeId v i := by
  have hn := mt Value.refers_iff.2 literal
  cases type : p.type with
  | any => simp [issue?, hn, type] at h
  | string =>
    simp only [issue?, if_neg hn, type, Option.bind_eq_some_iff, Option.ite_none_right_eq_some,
      Option.some.injEq] at h
    obtain ⟨max, bound, long, rfl⟩ := h
    exact .tooLong type bound long
  | boolean =>
    simp only [issue?, if_neg hn, type, Option.ite_none_right_eq_some, Option.some.injEq,
      Option.isNone_iff_eq_none] at h
    obtain ⟨unread, rfl⟩ := h
    exact type ▸ .noTruth type unread
  | long => exact rejects_of_numeric (.inl type) literal h
  | double => exact rejects_of_numeric (.inr type) literal h
  | enum =>
    simp only [issue?, if_neg hn, type, Option.ite_none_left_eq_some, Option.some.injEq] at h
    obtain ⟨other, rfl⟩ := h
    exact .notAllowed type other

theorem issue?_of_rejects {i : Issue} (literal : ¬ v.Refers) (h : p.Rejects nodeId v i) :
    p.issue? nodeId v = some i := by
  have hn := mt Value.refers_iff.2 literal
  cases h with
  | tooLong type bound long => simp [issue?, hn, type, bound, long]
  | noTruth type unread => simp [issue?, hn, type, unread]
  | noNumber numeric unread =>
    rw [issue?_of_numeric numeric literal, (not_reads_iff numeric).1 unread]
  | outOfRange read outside =>
    have numeric := numeric_of_reads read
    rw [issue?_of_numeric numeric literal, (reads_iff numeric).1 read]
    exact if_pos (excludes_iff.1 outside)
  | notAllowed type other => simp [issue?, hn, type, other]

/-- The check of a value finds what the declaration has against it, unless it is a reference. -/
theorem issue?_eq_some_iff {i : Issue} :
    p.issue? nodeId v = some i ↔ ¬ v.Refers ∧ p.Rejects nodeId v i := by
  by_cases refers : v.Refers
  · simp [issue?, Value.refers_iff.1 refers, refers]
  · exact ⟨fun h => ⟨refers, rejects_of_issue? refers h⟩, fun h => issue?_of_rejects refers h.2⟩

theorem presentParam?_eq_some_iff {params : KeyMap Value} {key : String} :
    presentParam? params key = some v ↔ params.get? key = some v ∧ v ≠ .null := by
  simp only [presentParam?, Option.filter_eq_some_iff, Bool.not_eq_true']
  refine and_congr_right fun _ => ?_
  cases v <;> simp [Value.isNull]

theorem presentParam?_eq_none_iff {params : KeyMap Value} {key : String} :
    presentParam? params key = none ↔ ∀ v, params.get? key = some v → v = .null := by
  simp only [Option.eq_none_iff_forall_ne_some, ne_eq, presentParam?_eq_some_iff, not_and,
    Decidable.not_not]

/-- The check of a declared param finds that it is missing, or what its declaration has against its
value. -/
theorem check_eq_some_iff {params : KeyMap Value} {i : Issue} :
    p.check nodeId params = some i ↔
      (∃ v, params.get? p.key = some v ∧ v ≠ .null ∧ ¬ v.Refers ∧ p.Rejects nodeId v i) ∨
        (p.required = true ∧ p.defaultValue = none ∧
          (∀ v, params.get? p.key = some v → v = .null) ∧ i = .missingParam nodeId p.key) := by
  unfold check
  cases hv : presentParam? params p.key with
  | some v =>
    obtain ⟨given, present⟩ := presentParam?_eq_some_iff.1 hv
    simp only [issue?_eq_some_iff]
    constructor
    · intro h
      exact .inl ⟨v, given, present, h⟩
    · rintro (⟨v', given', -, h⟩ | ⟨-, -, absent, -⟩)
      · cases given.symm.trans given'
        exact h
      · exact absurd (absent v given) present
  | none =>
    have absent := presentParam?_eq_none_iff.1 hv
    simp only [Option.ite_none_right_eq_some, Bool.and_eq_true, Option.isNone_iff_eq_none,
      Option.some.injEq]
    constructor
    · rintro ⟨⟨required, bare⟩, rfl⟩
      exact .inr ⟨required, bare, absent, rfl⟩
    · rintro (⟨v, given, present, -⟩ | ⟨required, bare, -, rfl⟩)
      · exact absurd (absent v given) present
      · exact ⟨⟨required, bare⟩, rfl⟩

end ParamSpec

theorem NodeSpec.param?_isNone_iff {sp : NodeSpec} {key : String} :
    (sp.param? key).isNone = true ↔ ∀ p ∈ sp.params, p.key ≠ key := by
  simp [param?]

/-- The findings about the params of a node are what is wrong with them. -/
theorem mem_paramIssues_iff {n : Node} {sp : NodeSpec} {i : Issue} :
    i ∈ paramIssues sp n.id n.params ↔ n.ParamProblem sp i := by
  simp only [paramIssues, List.mem_append, List.mem_map, List.mem_filter, List.mem_filterMap,
    ParamSpec.check_eq_some_iff, NodeSpec.param?_isNone_iff, KeyMap.mem_keys_iff,
    Option.isSome_iff_exists]
  constructor
  · rintro (⟨key, ⟨⟨v, given⟩, unknown⟩, rfl⟩ |
      ⟨p, declared, ⟨v, given, present, literal, rejects⟩ | ⟨required, bare, absent, rfl⟩⟩)
    · exact .undeclared given unknown
    · exact .rejected declared given present literal rejects
    · exact .missing declared required bare absent
  · intro h
    cases h with
    | missing declared required bare absent =>
      exact .inr ⟨_, declared, .inr ⟨required, bare, absent, rfl⟩⟩
    | rejected declared given present literal rejects =>
      exact .inr ⟨_, declared, .inl ⟨_, given, present, literal, rejects⟩⟩
    | undeclared given unknown => exact .inl ⟨_, ⟨⟨_, given⟩, unknown⟩, rfl⟩

theorem Node.mem_successors_iff {n : Node} {target : String} :
    target ∈ n.successors ↔
      (n.next = some target ∨ n.nextTrue = some target ∨ n.nextFalse = some target) ∧
        Text.isBlankText target = false := by
  have visible (id : Option String) :
      id.bind nonBlank = some target ↔ id = some target ∧ Text.isBlankText target = false := by
    cases id with
    | none => simp
    | some id =>
      simp only [Option.bind_some, nonBlank, Option.ite_none_left_eq_some, Option.some.injEq,
        Bool.not_eq_true]
      constructor
      · rintro ⟨hb, rfl⟩
        exact ⟨rfl, hb⟩
      · rintro ⟨rfl, hb⟩
        exact ⟨hb, rfl⟩
  simp only [successors, List.mem_filterMap, List.mem_cons, List.not_mem_nil, or_false]
  constructor
  · rintro ⟨id, h, hid⟩
    obtain ⟨rfl, hb⟩ := (visible id).1 hid
    refine ⟨?_, hb⟩
    rcases h with h | h | h
    · exact .inl h.symm
    · exact .inr (.inl h.symm)
    · exact .inr (.inr h.symm)
  · rintro ⟨h, hb⟩
    refine ⟨some target, ?_, (visible _).2 ⟨rfl, hb⟩⟩
    rcases h with h | h | h
    · exact .inl h.symm
    · exact .inr (.inl h.symm)
    · exact .inr (.inr h.symm)

namespace Flow

variable {f : Flow} {registry : Registry} {grants : Grants} {i : Issue}

/-- The findings about a node are what is wrong with it. -/
theorem mem_nodeFindings_iff {n : Node} :
    i ∈ f.nodeFindings registry grants n ↔ f.NodeProblem registry grants n i := by
  simp only [nodeFindings, List.mem_append, List.mem_map, List.mem_filter, decide_eq_true_eq,
    Node.mem_successors_iff, Grants.mem_missing, EffectSet.mem_toList, nodeIssues,
    Registry.sideEffects]
  cases registered : registry.spec? n.type with
  | none =>
    constructor
    · rintro ((⟨target, ⟨⟨refers, visible⟩, absent⟩, rfl⟩ | h) | ⟨x, ⟨has, -⟩, -⟩)
      · exact .danglingReference refers visible absent
      · cases List.mem_singleton.1 h
        exact .unknownNodeType registered
      · cases x <;> cases has
    · intro h
      cases h with
      | danglingReference refers visible absent =>
        exact .inl (.inl ⟨_, ⟨⟨refers, visible⟩, absent⟩, rfl⟩)
      | unknownNodeType _ => exact .inl (.inr List.mem_cons_self)
      | param known _ => cases registered.symm.trans known
      | sideEffectNotGranted known _ _ => cases registered.symm.trans known
  | some sp =>
    simp only [mem_paramIssues_iff, Option.map_some, Option.getD_some]
    constructor
    · rintro ((⟨target, ⟨⟨refers, visible⟩, absent⟩, rfl⟩ | problem) | ⟨x, ⟨has, denied⟩, rfl⟩)
      · exact .danglingReference refers visible absent
      · exact .param registered problem
      · exact .sideEffectNotGranted registered has denied
    · intro h
      cases h with
      | danglingReference refers visible absent =>
        exact .inl (.inl ⟨_, ⟨⟨refers, visible⟩, absent⟩, rfl⟩)
      | unknownNodeType unknown => cases registered.symm.trans unknown
      | param known problem =>
        cases registered.symm.trans known
        exact .inl (.inr problem)
      | sideEffectNotGranted known has denied =>
        cases registered.symm.trans known
        exact .inr ⟨_, ⟨has, denied⟩, rfl⟩

/-- The repeated ids are those seen before and those that occur twice. -/
theorem mem_repeatedIds_iff {id : String} {seen ids : List String} :
    id ∈ repeatedIds seen ids ↔ id ∈ ids ∧ id ∈ seen ∨ 1 < ids.count id := by
  induction ids generalizing seen with
  | nil => simp [repeatedIds]
  | cons x ids ih =>
    rw [repeatedIds]
    by_cases same : x = id
    · subst same
      split
      · rename_i before
        simp [before]
      · rename_i new
        simp only [ih, List.mem_cons_self, and_true, true_and, List.count_cons_self, new, false_or,
          Nat.lt_add_left_iff_pos, List.count_pos_iff]
        constructor
        · rintro (h | h)
          · exact h
          · exact List.count_pos_iff.1 (by omega)
        · exact .inl
    · have counted : (x :: ids).count id = ids.count id := List.count_cons_of_ne same
      split
      · simp [ih, counted, Ne.symm same]
      · simp [ih, counted, Ne.symm same]

/-- The findings about a flow are what is wrong with it. -/
theorem mem_issues_iff : i ∈ f.issues registry grants ↔ f.Problem registry grants i := by
  simp only [issues, List.mem_append, List.mem_ite_nil_right, List.mem_singleton, List.mem_map,
    List.mem_filter, List.mem_flatMap, decide_eq_true_eq, mem_repeatedIds_iff, List.not_mem_nil,
    and_false, false_or, mem_nodeFindings_iff]
  constructor
  · rintro (((⟨blank, rfl⟩ | ⟨id, repeated, rfl⟩) | ⟨t, ⟨declared, absent⟩, rfl⟩) |
      ⟨n, declared, problem⟩)
    · exact .emptyFlowId (List.all_eq_true.1 blank)
    · exact .duplicateNodeId repeated
    · exact .missingStartNode declared absent
    · exact .node declared problem
  · intro h
    cases h with
    | emptyFlowId blank => exact .inl (.inl (.inl ⟨List.all_eq_true.2 blank, rfl⟩))
    | duplicateNodeId repeated => exact .inl (.inl (.inr ⟨_, repeated, rfl⟩))
    | missingStartNode declared absent => exact .inl (.inr ⟨_, ⟨declared, absent⟩, rfl⟩)
    | node declared problem => exact .inr ⟨_, declared, problem⟩

theorem mem_errors_iff :
    i ∈ (f.validate registry grants).errors ↔
      f.Problem registry grants i ∧ i.isWarning = false := by
  simp [validate, Report.ofIssues, mem_issues_iff]

theorem mem_warnings_iff :
    i ∈ (f.validate registry grants).warnings ↔
      f.Problem registry grants i ∧ i.isWarning = true := by
  simp [validate, Report.ofIssues, mem_issues_iff]

theorem errors_eq_nil_iff :
    (f.validate registry grants).errors = [] ↔
      ∀ i, f.Problem registry grants i → i.isWarning = true := by
  simp only [validate, Report.ofIssues, List.filter_eq_nil_iff, mem_issues_iff,
    Bool.not_eq_true', Bool.not_eq_false]

/-- Nothing is found in the params and the effects of a node of an unknown type. -/
theorem NodeProblem.of_unregistered {n : Node} {i : Issue}
    (h : f.NodeProblem registry grants n i) (unregistered : registry.spec? n.type = none) :
    i = .unknownNodeType n.id n.type ∨ ∃ target, i = .danglingReference n.id target := by
  cases h with
  | danglingReference _ _ _ => exact .inr ⟨_, rfl⟩
  | unknownNodeType _ => exact .inl rfl
  | param registered _ => cases unregistered.symm.trans registered
  | sideEffectNotGranted registered _ _ => cases unregistered.symm.trans registered

end Flow

theorem Issue.isWarning_iff {i : Issue} :
    i.isWarning = true ↔ ∃ nodeId key, i = .unknownParam nodeId key := by
  cases i <;> simp [isWarning]

namespace Loader

variable {ω : Type} {l : Loader ω} {g : Grants} {j : Journal ω}

def loadEvents : Except LoadFault LoadedFlow → List Audit.Event
  | .ok lf => [.flowLoaded lf.definition.id lf.hash lf.grants lf.warnings.length]
  | .error _ => []

theorem loadFlow_of_sound {f : Flow} (sound : (f.validate l.registry g).errors = []) :
    (l.loadFlow f g j).1 = .ok ⟨f, g, (f.validate l.registry g).warnings, f.hash⟩ := by
  have ok : (f.validate l.registry g).isOk = true := List.isEmpty_iff.2 sound
  simp only [loadFlow, ok, if_true]

theorem loadFlow_of_unsound {f : Flow} (unsound : (f.validate l.registry g).errors ≠ []) :
    (l.loadFlow f g j).1 = .error (.invalid f.id (f.validate l.registry g).errors) := by
  have bad : ¬ (f.validate l.registry g).isOk = true := mt List.isEmpty_iff.1 unsound
  unfold loadFlow
  dsimp only
  rw [if_neg bad]

theorem events_loadFlow (f : Flow) :
    (l.loadFlow f g j).2.events = j.events ++ loadEvents (l.loadFlow f g j).1 := by
  unfold loadFlow
  dsimp only
  split
  · simp only [Journal.events_record, Journal.events_tellAll, loadEvents]
  · simp only [Journal.events_tell, loadEvents, List.append_nil]

theorem load_of_read {bytes : List UInt8} {f : Flow} (read : Json.read Flow.reader bytes = .ok f) :
    l.load bytes g j = l.loadFlow f g j := by
  rw [load, read]

theorem load_eq_ok_iff {bytes : List UInt8} {lf : LoadedFlow} :
    (l.load bytes g j).1 = .ok lf ↔
      ∃ f, Json.read Flow.reader bytes = .ok f ∧ (f.validate l.registry g).errors = [] ∧
        lf = ⟨f, g, (f.validate l.registry g).warnings, f.hash⟩ := by
  cases read : Json.read Flow.reader bytes with
  | error fault => simp [load, read]
  | ok f =>
    rw [load_of_read read]
    by_cases sound : (f.validate l.registry g).errors = []
    · rw [loadFlow_of_sound sound]
      constructor
      · intro h
        cases h
        exact ⟨f, rfl, sound, rfl⟩
      · rintro ⟨f', hf, -, rfl⟩
        cases hf
        rfl
    · simp [loadFlow_of_unsound sound, sound]

/-- A loader gives a flow that it reads without errors. -/
theorem load_of_sound {bytes : List UInt8} {f : Flow} {warnings : List Issue}
    (read : (Json.read Flow.reader bytes).toOption = some f)
    (sound : f.validate l.registry g = ⟨[], warnings⟩) :
    (l.load bytes g j).1 = .ok ⟨f, g, warnings, f.hash⟩ := by
  refine load_eq_ok_iff.2 ⟨f, ?_, by rw [sound], by rw [sound]⟩
  cases result : Json.read Flow.reader bytes with
  | error fault =>
    rw [result] at read
    cases read
  | ok f' =>
    rw [result] at read
    exact congrArg Except.ok (Option.some.inj read)

theorem events_load (bytes : List UInt8) :
    (l.load bytes g j).2.events = j.events ++ loadEvents (l.load bytes g j).1 := by
  cases read : Json.read Flow.reader bytes with
  | error fault => simp [load, read, loadEvents]
  | ok f =>
    rw [load_of_read read]
    exact events_loadFlow f

/-- The checks of a flow report what is wrong with it, everything and nothing else: as warnings the
params that are not declared, as errors all the rest; of a node of an unknown type nothing is said
but that, and where it leads nowhere. A loader accepts exactly the bytes that it can read as a flow
without errors, gives that flow, or else all its errors, and records one event for a flow that it
accepts and none for others. -/
theorem load_reports_problems (l : Loader ω) (g : Grants) (j : Journal ω) :
    (∀ f : Flow,
      (∀ i, i ∈ (f.validate l.registry g).errors ↔
        f.Problem l.registry g i ∧ ¬ ∃ nodeId key, i = .unknownParam nodeId key) ∧
      (∀ i, i ∈ (f.validate l.registry g).warnings ↔
        f.Problem l.registry g i ∧ ∃ nodeId key, i = .unknownParam nodeId key) ∧
      ∀ n ∈ f.nodes, l.registry.spec? n.type = none → ∀ i ∈ f.nodeFindings l.registry g n,
        i = .unknownNodeType n.id n.type ∨ ∃ target, i = .danglingReference n.id target) ∧
    ∀ bytes : List UInt8,
      (∀ lf, (l.load bytes g j).1 = .ok lf ↔
        ∃ f, Json.read Flow.reader bytes = .ok f ∧ (f.validate l.registry g).errors = [] ∧
          lf = ⟨f, g, (f.validate l.registry g).warnings, f.hash⟩) ∧
      (∀ f, Json.read Flow.reader bytes = .ok f → (f.validate l.registry g).errors ≠ [] →
        (l.load bytes g j).1 = .error (.invalid f.id (f.validate l.registry g).errors)) ∧
      (l.load bytes g j).2.events = j.events ++ loadEvents (l.load bytes g j).1 := by
  constructor
  · intro f
    refine ⟨fun i => ?_, fun i => ?_, fun n _ unregistered i hi => ?_⟩
    · rw [Flow.mem_errors_iff, ← Issue.isWarning_iff, Bool.not_eq_true]
    · rw [Flow.mem_warnings_iff, Issue.isWarning_iff]
    · exact (Flow.mem_nodeFindings_iff.1 hi).of_unregistered unregistered
  · intro bytes
    refine ⟨fun lf => load_eq_ok_iff, fun f read unsound => ?_, events_load bytes⟩
    rw [load_of_read read]
    exact loadFlow_of_unsound unsound

end Loader
end PluginFlow
