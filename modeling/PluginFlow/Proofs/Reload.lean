import PluginFlow.Proofs.Accepted
import PluginFlow.Proofs.NumeralValue
import PluginFlow.Proofs.Readers

/-!
Reloading. What a loader gives for the JSON text of a loaded flow is what it gave before, but for the
numbers among the params: each comes back as what the text of the number is read as.
-/

namespace PluginFlow

open Json (Document Reader)
open Json.Reader
open Text.Utf8 (encode)

/-! ### What texts are read as -/

def Number.ReadsAs (x y : Number) : Prop :=
  Json.read Reader.number (encode (x.write .json)) = .ok y

namespace Number

theorem readsAs_iff {x y : Number} : x.ReadsAs y ↔ Reader.number 0 x.draft = .ok y := by
  have bytes : encode (x.write .json) = (Document.number x).bytes := by
    rw [Document.bytes, Document.compact]
  rw [ReadsAs, bytes, Document.read_bytes, Document.draft]

theorem Modest.readsAs {x : Number} (h : x.Modest) : x.ReadsAs x := by
  cases h with
  | finite fits numeral =>
    rw [readsAs_iff, draft, Reader.number, Reader.numeral, number?_numeral fits numeral]

end Number

/-- What the JSON text of a value is read as: a number may come back as another one, and one that
is not finite is lost. -/
inductive Value.ReadsAs : Value → Value → Prop
  | null : ReadsAs .null .null
  | bool (b : Bool) : ReadsAs (.bool b) (.bool b)
  | text (s : String) : ReadsAs (.text s) (.text s)
  | number {x y : Number} (h : x.ReadsAs y) : ReadsAs (.number x) (.number y)
  | lost {x : Number} (h : x.isFinite = false) : ReadsAs (.number x) .null

/-- Nodes that agree in all but the numbers among their params. -/
structure Node.ReadsAs (n m : Node) : Prop where
  same : m = { n with params := m.params }
  params : List.Forall₂ (fun e e' => e.1 = e'.1 ∧ e.2.ReadsAs e'.2) n.params.entries m.params.entries

structure Flow.ReadsAs (f f' : Flow) : Prop where
  same : f' = { f with nodes := f'.nodes }
  nodes : List.Forall₂ Node.ReadsAs f.nodes f'.nodes

namespace Value

theorem reader_number {x : Number} {depth : Nat} {v : Value} :
    reader depth x.draft = .ok v ↔ (Value.number x).ReadsAs v := by
  cases finite : x.isFinite with
  | false =>
    have absent : x.draft = .null := by
      cases x with
      | finite negative units fits => cases finite
      | _ => rfl
    rw [absent]
    constructor
    · intro h
      cases h
      exact .lost finite
    · intro h
      cases h with
      | number read =>
        rw [Number.readsAs_iff, absent] at read
        cases read
      | lost => rfl
  | true =>
    obtain ⟨n, numeral⟩ : ∃ n, x.draft = .number n := by
      cases x with
      | finite negative units fits => exact ⟨_, rfl⟩
      | _ => cases finite
    have number (y : Number) : x.ReadsAs y ↔ Reader.numeral n = .ok y := by
      rw [Number.readsAs_iff, numeral, Reader.number]
    rw [numeral, reader, Json.Draft.keepFault]
    constructor
    · intro h
      obtain ⟨_, -, h⟩ := Outcome.bind_eq_ok_iff.1 h
      obtain ⟨y, read, h⟩ := Outcome.bind_eq_ok_iff.1 h
      cases h
      exact .number ((number y).2 read)
    · intro h
      cases h with
      | number read =>
        simp only [(number _).1 read]
        rfl
      | lost infinite =>
        rw [infinite] at finite
        cases finite

theorem reader_eq_ok_iff {v w : Value} {depth : Nat} :
    reader depth v.toDocument.draft = .ok w ↔ v.ReadsAs w := by
  cases v with
  | null =>
    constructor
    · intro h
      cases h
      exact .null
    · rintro ⟨⟩
      rfl
  | bool b =>
    constructor
    · intro h
      cases h
      exact .bool b
    · rintro ⟨⟩
      rfl
  | text s =>
    have reads : quote ⟨s.toList.flatMap Json.pieces, none⟩ = .ok s := by rw [quote, Json.read_quote]
    have whole : reader depth (Value.text s).toDocument.draft = .ok (.text s) := by
      rw [toDocument, Document.draft, Json.textDraft, reader, Json.Draft.keepFault]
      simp only [reads]
      rfl
    rw [whole]
    constructor
    · intro h
      cases h
      exact .text s
    · rintro ⟨⟩
      rfl
  | number x =>
    rw [toDocument, Document.draft, reader_number]

theorem readsAs_self_iff {v : Value} : v.ReadsAs v ↔ ∀ x, v = .number x → x.ReadsAs x := by
  constructor
  · rintro h x rfl
    cases h with
    | number read => exact read
  · intro h
    cases v with
    | null => exact .null
    | bool b => exact .bool b
    | text s => exact .text s
    | number x => exact .number (h x rfl)

end Value

/-! ### Flows -/

theorem itemReader_eq_ok_iff {m m' : Item} {depth : Nat} (room : depth < Json.depthLimit) :
    itemReader depth (itemDocument m).draft = .ok m' ↔
      List.Forall₂ (fun e e' => e.1 = e'.1 ∧ e.2.ReadsAs e'.2) m.entries m'.entries := by
  rw [itemReader, itemDocument, keyMap_eq_ok_iff room]
  simp only [Value.reader_eq_ok_iff]

theorem TriggerType.reader_draft {type : TriggerType} (named : ofName type.name = type)
    (depth : Nat) : TriggerType.reader depth type.toDocument.draft = .ok type := by
  rw [TriggerType.reader, TriggerType.toDocument, text_draft]
  exact congrArg Except.ok named

namespace Trigger

def Named (t : Trigger) : Prop := TriggerType.ofName t.type.name = t.type

theorem reader_ensures : Ensures reader Named := by
  refine Ensures.record (Q := fun p => ∀ type ∈ p.type, TriggerType.ofName type.name = type)
    (fun _ h => nomatch h) ?_ ?_
  · have named : Ensures TriggerType.reader fun type => TriggerType.ofName type.name = type := by
      intro depth d type h
      obtain ⟨name, -, rfl⟩ := Outcome.map_eq_ok_iff.1 h
      rw [TriggerType.name_ofName]
    simp only [slots, List.forall_mem_cons]
    refine ⟨slot_keeps named ?_, slot_keeps (ensures_nothing _) fun p x h _ => h,
      slot_keeps (ensures_nothing _) fun p x h _ => h,
      slot_keeps (ensures_nothing _) fun p x h _ => h, List.forall_mem_nil _⟩
    rintro p type - h _ ⟨⟩
    exact h
  · rintro ⟨type, targetId, messageType, startNodeId⟩ h
    cases type with
    | none => exact congrArg TriggerType.ofName (TriggerType.name_ofName "")
    | some type => exact h type rfl

theorem reader_draft {depth : Nat} (room : depth < Json.depthLimit) {t : Trigger}
    (named : t.Named) : Trigger.reader depth t.toDocument.draft = .ok t := by
  obtain ⟨type, targetId, messageType, startNodeId⟩ := t
  have read : fields slots (depth + 1) none {} (Document.draftMembers
        (("type", type.toDocument) :: (Document.optional "targetId" targetId .text ++
          (Document.optional "messageType" messageType .text ++
            [("startNodeId", .text startNodeId)])))) =
      .ok ⟨some type, targetId.map some, messageType.map some, some startNodeId⟩ := by
    rw [fields_slot rfl rfl (TriggerType.reader_draft named _),
      fields_optional rfl rfl (optional_text_draft _)
        ⟨some type, targetId.map some, none, none⟩ (by cases targetId <;> rfl),
      fields_optional rfl rfl (optional_text_draft _)
        ⟨some type, targetId.map some, messageType.map some, none⟩
        (by cases messageType <;> rfl),
      fields_slot rfl rfl (text_draft _ _)]
    rfl
  rw [Trigger.toDocument, List.append_assoc, List.append_assoc, List.singleton_append,
    Trigger.reader, record_object room read]
  · cases targetId <;> cases messageType <;> rfl
  · intro p h
    cases h
    cases targetId <;> cases messageType <;> rfl

theorem list_reader_draft {depth : Nat} (room : depth + 1 < Json.depthLimit) {ts : List Trigger}
    (named : ∀ t ∈ ts, t.Named) :
    list reader depth (Document.array (ts.map toDocument)).draft = .ok ts := by
  rw [list_eq_ok_iff (Nat.lt_of_succ_lt room), List.forall₂_same]
  exact fun t ht => reader_draft room (named t ht)

end Trigger

namespace Node

theorem reader_draft {depth : Nat} (room : depth < Json.depthLimit) (n : Node) :
    Node.reader depth n.toDocument.draft =
      (fun params => { n with params }) <$> itemReader (depth + 1) (itemDocument n.params).draft := by
  obtain ⟨id, type, params, next, nextTrue, nextFalse⟩ := n
  have shape : Node.toDocument ⟨id, type, params, next, nextTrue, nextFalse⟩ =
      .object (("id", .text id) :: ("type", .text type) :: ("params", itemDocument params) ::
        (Document.optional "next" next .text ++ (Document.optional "nextTrue" nextTrue .text ++
          (Document.optional "nextFalse" nextFalse .text ++ [])))) := by
    rw [Node.toDocument, List.append_nil]
    simp only [List.cons_append, List.nil_append, List.append_assoc]
  have read : fields slots (depth + 1) none {} (Document.draftMembers
        (("id", .text id) :: ("type", .text type) :: ("params", itemDocument params) ::
          (Document.optional "next" next .text ++ (Document.optional "nextTrue" nextTrue .text ++
            (Document.optional "nextFalse" nextFalse .text ++ []))))) =
      (fun params => ⟨some id, some type, some params, next.map some, nextTrue.map some,
        nextFalse.map some⟩) <$> itemReader (depth + 1) (itemDocument params).draft := by
    rw [fields_slot rfl rfl (text_draft _ _), fields_slot rfl rfl (text_draft _ _),
      fields_member (s := slots[2]) rfl rfl]
    change (_ <$> itemReader (depth + 1) (itemDocument params).draft) >>= _ = _
    -- The params alone can fail or change; what stands behind them is read as it was written.
    cases itemReader (depth + 1) (itemDocument params).draft with
    | error f => rfl
    | ok params =>
      change fields slots (depth + 1) none ⟨some id, some type, some params, none, none, none⟩ _ = _
      rw [fields_optional rfl rfl (optional_text_draft _)
          ⟨some id, some type, some params, next.map some, none, none⟩ (by cases next <;> rfl),
        fields_optional rfl rfl (optional_text_draft _)
          ⟨some id, some type, some params, next.map some, nextTrue.map some, none⟩
          (by cases nextTrue <;> rfl),
        fields_optional rfl rfl (optional_text_draft _)
          ⟨some id, some type, some params, next.map some, nextTrue.map some, nextFalse.map some⟩
          (by cases nextFalse <;> rfl)]
      rfl
  rw [shape, Node.reader, record_object room read]
  · cases itemReader (depth + 1) (itemDocument params).draft <;> cases next <;> cases nextTrue <;>
      cases nextFalse <;> rfl
  · intro p h
    obtain ⟨params, -, rfl⟩ := Outcome.map_eq_ok_iff.1 h
    cases next <;> cases nextTrue <;> cases nextFalse <;> rfl

theorem reader_eq_ok_iff {depth : Nat} (room : depth + 1 < Json.depthLimit) {n m : Node} :
    Node.reader depth n.toDocument.draft = .ok m ↔ n.ReadsAs m := by
  rw [reader_draft (Nat.lt_of_succ_lt room), Outcome.map_eq_ok_iff]
  constructor
  · rintro ⟨params, read, rfl⟩
    exact ⟨rfl, (itemReader_eq_ok_iff room).1 read⟩
  · rintro ⟨same, params⟩
    exact ⟨m.params, (itemReader_eq_ok_iff room).2 params, same.symm⟩

end Node

namespace Flow

theorem reader_ensures : Ensures reader fun f => ∀ t ∈ f.triggers, t.Named := by
  refine Ensures.record (Q := fun p => ∀ triggers ∈ p.triggers, ∀ t ∈ triggers, t.Named)
    (fun _ h => nomatch h) ?_ ?_
  · simp only [slots, List.forall_mem_cons]
    refine ⟨slot_keeps (ensures_nothing _) fun p x h _ => h,
      slot_keeps Trigger.reader_ensures.list ?_,
      slot_keeps (ensures_nothing _) fun p x h _ => h, List.forall_mem_nil _⟩
    rintro p triggers - h _ ⟨⟩
    exact h
  · rintro ⟨id, triggers, nodes⟩ h
    cases triggers with
    | none => exact List.forall_mem_nil _
    | some triggers => exact h triggers rfl

theorem reader_draft {f : Flow} (named : ∀ t ∈ f.triggers, t.Named) :
    reader 0 f.toDocument.draft =
      (fun nodes => { f with nodes }) <$>
        list Node.reader 1 (Document.array (f.nodes.map Node.toDocument)).draft := by
  have read : fields slots 1 none {} (Document.draftMembers
        [("flowId", .text f.id), ("triggers", .array (f.triggers.map Trigger.toDocument)),
          ("nodes", .array (f.nodes.map Node.toDocument))]) =
      (fun nodes => ⟨some f.id, some f.triggers, some nodes⟩) <$>
        list Node.reader 1 (Document.array (f.nodes.map Node.toDocument)).draft := by
    rw [fields_slot rfl rfl (text_draft _ _),
      fields_slot rfl rfl (Trigger.list_reader_draft (by decide) named),
      fields_member (s := slots[2]) rfl rfl]
    change (_ <$> list Node.reader 1 _) >>= _ = _
    cases list Node.reader 1 (Document.array (f.nodes.map Node.toDocument)).draft <;> rfl
  rw [toDocument, reader, record_object (by decide) read]
  · cases list Node.reader 1 (Document.array (f.nodes.map Node.toDocument)).draft <;> rfl
  · intro p h
    obtain ⟨nodes, -, rfl⟩ := Outcome.map_eq_ok_iff.1 h
    rfl

/-- What the JSON text of a flow is read as, when its triggers are of the types of their names. -/
theorem read_written_iff {f f' : Flow} (named : ∀ t ∈ f.triggers, t.Named) :
    Json.read reader f.toDocument.bytes = .ok f' ↔ f.ReadsAs f' := by
  rw [Document.read_bytes, reader_draft named, Outcome.map_eq_ok_iff]
  constructor
  · rintro ⟨nodes, read, rfl⟩
    exact ⟨rfl, ((list_eq_ok_iff (by decide)).1 read).imp
      fun _ _ => (Node.reader_eq_ok_iff (by decide)).1⟩
  · rintro ⟨same, nodes⟩
    exact ⟨f'.nodes, (list_eq_ok_iff (by decide)).2 (nodes.imp
      fun _ _ => (Node.reader_eq_ok_iff (by decide)).2), same.symm⟩

def Carries (f : Flow) (x : Number) : Prop :=
  ∃ n ∈ f.nodes, ∃ key, (key, Value.number x) ∈ n.params.entries

theorem readsAs_self_iff {f : Flow} : f.ReadsAs f ↔ ∀ x, f.Carries x → x.ReadsAs x := by
  constructor
  · rintro ⟨-, nodes⟩ x ⟨n, hn, key, he⟩
    have params := (List.forall₂_same.1 nodes n hn).params
    exact Value.readsAs_self_iff.1 (List.forall₂_same.1 params _ he).2 x rfl
  · intro h
    refine ⟨rfl, List.forall₂_same.2 fun n hn => ⟨rfl, List.forall₂_same.2 fun e he => ⟨rfl, ?_⟩⟩⟩
    refine Value.readsAs_self_iff.2 fun x same => h x ⟨n, hn, e.1, ?_⟩
    rw [← same]
    exact he

end Flow

namespace Loader

variable {ω : Type} {l : Loader ω} {g : Grants} {j : Journal ω} {bytes : List UInt8}
  {lf : LoadedFlow}

theorem loadFlow_eq_ok_iff {f : Flow} :
    (l.loadFlow f g j).1 = .ok lf ↔ (f.validate l.registry g).errors = [] ∧
      lf = ⟨f, g, (f.validate l.registry g).warnings, f.hash⟩ := by
  by_cases sound : (f.validate l.registry g).errors = []
  · rw [loadFlow_of_sound sound, and_iff_right sound]
    exact ⟨fun h => (Except.ok.inj h).symm, fun h => congrArg Except.ok h.symm⟩
  · rw [loadFlow_of_unsound sound]
    exact iff_of_false (fun h => nomatch h) (fun h => sound h.1)

/-- The JSON text of a loaded flow is read as that flow but for the numbers among its params, each
of which is what its own text is read as, and what is read so is checked like any flow. So the flow
is loaded from its JSON text just as it was when each of its numbers is read back from the number's
own text. Numbers whose text is a modest numeral are, among them the integers of forty-nine bits.
Whatever text it is loaded from, the same definition is loaded in the same way. -/
theorem load_written_iff (loaded : (l.load bytes g j).1 = .ok lf) (j' : Journal ω) :
    (∀ lf', (l.load lf.definition.toDocument.bytes g j').1 = .ok lf' ↔
        lf.definition.ReadsAs lf'.definition ∧ (l.loadFlow lf'.definition g j').1 = .ok lf') ∧
      ((l.load lf.definition.toDocument.bytes g j').1 = .ok lf ↔
        ∀ x, lf.definition.Carries x → x.ReadsAs x) ∧
      (∀ x : Number, x.Modest → x.ReadsAs x) ∧
      (∀ i : Int, i.natAbs ≤ 2 ^ 49 → (Number.ofInt i).Modest) ∧
      ∀ bytes' lf', (l.load bytes' g j').1 = .ok lf' → lf'.definition = lf.definition →
        lf' = lf := by
  obtain ⟨f, read, sound, rfl⟩ := load_eq_ok_iff.1 loaded
  have written {f' : Flow} : Json.read Flow.reader f.toDocument.bytes = .ok f' ↔ f.ReadsAs f' :=
    Flow.read_written_iff (Flow.reader_ensures.read read)
  have reloads {lf' : LoadedFlow} : (l.load f.toDocument.bytes g j').1 = .ok lf' ↔
      f.ReadsAs lf'.definition ∧ (l.loadFlow lf'.definition g j').1 = .ok lf' := by
    rw [load_eq_ok_iff]
    constructor
    · rintro ⟨f', read', sound', rfl⟩
      exact ⟨written.1 read', loadFlow_of_sound sound'⟩
    · rintro ⟨readsAs, checked⟩
      obtain ⟨sound', made⟩ := loadFlow_eq_ok_iff.1 checked
      exact ⟨lf'.definition, written.2 readsAs, sound', made⟩
  refine ⟨fun _ => reloads, ?_, fun _ h => h.readsAs, fun _ => Number.modest_ofInt, ?_⟩
  · rw [reloads, ← Flow.readsAs_self_iff]
    exact and_iff_left (loadFlow_of_sound sound)
  · intro bytes' lf' loaded' same
    obtain ⟨f', -, -, rfl⟩ := load_eq_ok_iff.1 loaded'
    cases same
    rfl

end Loader

/-! ### Flows that keep an integer -/

namespace Flow

def counting (x : Number) : Flow :=
  { id := "counting",
    nodes :=
      [{ id := "keep", type := "SetState",
         params := .ofList [("key", .text "count"), ("value", .number x)] }] }

theorem eq_of_carries_counting {x y : Number} (h : (counting x).Carries y) : y = x := by
  obtain ⟨n, hn, key, he⟩ := h
  have ordered : ["key", "value"].Pairwise (· < ·) := by decide +kernel
  have entries : n.params.entries = [("key", .text "count"), ("value", .number x)] := by
    rw [List.mem_singleton.1 hn]
    exact KeyMap.entries_ofList ordered
  rw [entries] at he
  rcases List.mem_cons.1 he with first | second
  · cases first
  · cases List.mem_singleton.1 second
    rfl

def countingBytes (i : Int) : List UInt8 :=
  Document.bytes <|
    .object [("flowId", .text "counting"), ("nodes", .array [.object [("id", .text "keep"),
      ("type", .text "SetState"), ("params", .object [("key", .text "count"),
        ("value", .integer i)])]])]

end Flow

namespace Loader

theorem load_counting_three :
    (plain.load (Flow.countingBytes 3) (.ofList [.storage]) ⟨(), []⟩).1 =
        .ok ⟨Flow.counting (.ofInt 3), .ofList [.storage], [], (Flow.counting (.ofInt 3)).hash⟩ ∧
      (plain.load (Flow.counting (.ofInt 3)).toDocument.bytes (.ofList [.storage]) ⟨(), []⟩).1 =
        .ok ⟨Flow.counting (.ofInt 3), .ofList [.storage], [], (Flow.counting (.ofInt 3)).hash⟩ := by
  have loaded := @load_of_sound _ plain (.ofList [.storage]) ⟨(), []⟩ (Flow.countingBytes 3)
    (Flow.counting (.ofInt 3)) [] (by decide +kernel) (by decide +kernel)
  obtain ⟨-, stable, modest, integers, -⟩ := load_written_iff loaded ⟨(), []⟩
  refine ⟨loaded, stable.2 fun x carries => modest x ?_⟩
  rw [Flow.eq_of_carries_counting carries]
  exact integers 3 (by decide)

/-- The largest integer below the fifty-third power of two is written with a fraction of zero. Its
digits then make more than that power, are rounded before the point is put, and come back less by
one. -/
theorem load_counting_written_ne :
    ∃ lf lf', (plain.load (Flow.countingBytes 9007199254740991) (.ofList [.storage])
        ⟨(), []⟩).1 = .ok lf ∧
      (plain.load lf.definition.toDocument.bytes (.ofList [.storage]) ⟨(), []⟩).1 = .ok lf' ∧
      lf'.definition ≠ lf.definition := by
  refine ⟨_, _,
    @load_of_sound _ _ _ _ _ (Flow.counting (.ofInt 9007199254740991)) [] (by decide +kernel)
      (by decide +kernel),
    @load_of_sound _ _ _ _ _ (Flow.counting (.ofInt 9007199254740990)) [] (by decide +kernel)
      (by decide +kernel), ?_⟩
  decide +kernel

end Loader
end PluginFlow
