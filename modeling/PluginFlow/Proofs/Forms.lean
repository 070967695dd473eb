import PluginFlow.Catalog.Form
import PluginFlow.Config.Form
import PluginFlow.Proofs.Reload
import PluginFlow.Run.Form

/-!
Written forms. Flows, contexts, results, records, grants and settings are read back from their JSON
texts as they were, whatever is left out or empty, as long as their numbers are whole and small and
their counts fit the words that hold them.
-/

namespace PluginFlow

open Json (Document)
open Json.Reader

/-! ### Words and names -/

namespace Json

theorem integer?_intNumeral {n : Nat} (fits : n < wordLimit) :
    (intNumeral n).integer? = some (n : Int) := by
  have sign : (intNumeral n).negative = false := by simp [intNumeral]
  have value : Number.digitsValue (intNumeral n).whole = n := Number.digitsValue_natDigits n
  unfold Numeral.integer?
  change (if (intNumeral n).negative then _ else _) = _
  simp only [sign, value, fits, if_true, Bool.false_eq_true, if_false]

namespace Reader

/-- A count that fits its word is read back. -/
theorem natural_draft {name : String} {limit n : Nat} (fits : n < limit) (word : limit ≤ wordLimit)
    (depth : Nat) : natural name limit depth (Document.integer n).draft = .ok n := by
  rw [Document.draft, natural]
  simp only [integer?_intNumeral (Nat.lt_of_lt_of_le fits word)]
  rw [if_pos ⟨Int.natCast_nonneg n, Int.ofNat_lt.2 fits⟩]
  rfl

theorem word_draft {n : Nat} (fits : n < 2 ^ 32) (depth : Nat) :
    word depth (Document.integer n).draft = .ok n :=
  natural_draft fits (by decide) depth

theorem longWord_draft {n : Nat} (fits : n < 2 ^ 64) (depth : Nat) :
    longWord depth (Document.integer n).draft = .ok n :=
  natural_draft fits (by decide) depth

theorem count_draft {n : Nat} (fits : n < 2 ^ 64) (depth : Nat) :
    count depth (Document.integer n).draft = .ok n :=
  natural_draft fits (by decide) depth

theorem bool_draft (b : Bool) (depth : Nat) : bool depth (Document.bool b).draft = .ok b := rfl

/-- A name out of a list is read as what it stands for. -/
theorem variant_draft {α : Type} {names : List (String × α)} {name : String} {x : α}
    (known : names.lookup name = some x) (depth : Nat) :
    variant names depth (Document.text name).draft = .ok x := by
  rw [Document.draft, textDraft, variant, quote, read_quote, Outcome.ok_bind, variant.choose]
  simp only [known]

end Reader
end Json

/-- A trigger type that some name is read as. -/
def TriggerType.Spelled (type : TriggerType) : Prop := ∃ name, ofName name = type

theorem TriggerType.Spelled.named {type : TriggerType} (spelled : type.Spelled) :
    ofName type.name = type := by
  obtain ⟨name, rfl⟩ := spelled
  rw [name_ofName]

/-! ### Whole numbers -/

/-- A whole number of at most forty-nine bits, the negative zero included. -/
def Number.Whole (x : Number) : Prop :=
  x.isIntegral = true ∧ ∃ i, x.truncate? = some i ∧ i.natAbs ≤ 2 ^ 49

def Value.Whole (v : Value) : Prop := ∀ x, v = .number x → x.Whole

def KeyMap.Whole (m : KeyMap Value) : Prop := ∀ e ∈ m.entries, e.2.Whole

theorem Number.Whole.modest {x : Number} (whole : x.Whole) : x.Modest := by
  obtain ⟨integral, i, truncated, small⟩ := whole
  cases x with
  | nan => cases integral
  | infinite negative => cases integral
  | finite negative units fits =>
    have exact : units / unit * unit = units :=
      Nat.div_mul_cancel (Nat.dvd_of_mod_eq_zero (by simpa [isIntegral] using integral))
    have size : units / unit = i.natAbs := by
      cases truncated
      rw [signed]
      cases negative with
      | false => exact (Int.natAbs_natCast _).symm
      | true => exact (Int.natAbs_neg _).symm ▸ (Int.natAbs_natCast _).symm
    refine .finite fits ?_
    rw [← exact, size]
    exact modest_whole small negative

namespace KeyMap

theorem Whole.readsAs {m : KeyMap Value} (whole : m.Whole) :
    List.Forall₂ (fun e e' => e.1 = e'.1 ∧ e.2.ReadsAs e'.2) m.entries m.entries := by
  refine List.forall₂_same.2 fun e he => ⟨rfl, Value.readsAs_self_iff.2 fun x hx => ?_⟩
  exact (whole e he x hx).modest.readsAs

end KeyMap

theorem itemReader_draft {m : Item} (whole : m.Whole) {depth : Nat}
    (room : depth < Json.depthLimit) : itemReader depth (itemDocument m).draft = .ok m :=
  (itemReader_eq_ok_iff room).2 whole.readsAs

theorem list_itemReader_draft {ms : List Item} (whole : ∀ m ∈ ms, m.Whole) {depth : Nat}
    (room : depth + 1 < Json.depthLimit) :
    list itemReader depth (Document.array (ms.map itemDocument)).draft = .ok ms := by
  rw [list_eq_ok_iff (Nat.lt_of_succ_lt room), List.forall₂_same]
  exact fun m hm => itemReader_draft (whole m hm) room

/-! ### Runs -/

namespace Context

structure Whole (c : Context) : Prop where
  data : c.data.Whole
  items : ∀ m ∈ c.items, m.Whole

theorem reader_draft {c : Context} (whole : c.Whole) : reader 0 c.toDocument.draft = .ok c := by
  obtain ⟨targetId, data, items⟩ := c
  have read : fields slots 1 none {} (Document.draftMembers
        (Document.optional "actionTargetId" targetId .text ++
          [("actionData", itemDocument data), ("items", .array (items.map itemDocument))])) =
      .ok ⟨targetId.map some, some data, some items⟩ := by
    rw [fields_optional rfl rfl (optional_text_draft _) ⟨targetId.map some, none, none⟩
        (by cases targetId <;> rfl),
      fields_slot rfl rfl (itemReader_draft whole.data (by decide)),
      fields_slot rfl rfl (list_itemReader_draft whole.items (by decide))]
    rfl
  rw [toDocument, reader, record_object (by decide) read]
  · cases targetId <;> rfl
  · intro p h
    cases h
    rfl

end Context

namespace RunRecord

structure Fits (r : RunRecord) : Prop where
  spelled : r.triggerType.Spelled
  steps : r.steps < 2 ^ 32
  durationMs : r.durationMs < 2 ^ 64

theorem reader_draft {r : RunRecord} (fits : r.Fits) : reader 0 r.toDocument.draft = .ok r := by
  obtain ⟨flowId, triggerType, ok, steps, durationMs, error⟩ := r
  have shape : toDocument ⟨flowId, triggerType, ok, steps, durationMs, error⟩ =
      .object (("flowId", .text flowId) :: ("triggerType", triggerType.toDocument) ::
        ("ok", .bool ok) :: ("steps", .integer steps) :: ("durationMs", .integer durationMs) ::
        (Document.optional "error" error .text ++ [])) := by
    rw [toDocument, List.append_nil]
    simp only [List.cons_append, List.nil_append]
  have read : fields slots 1 none {} (Document.draftMembers
        (("flowId", .text flowId) :: ("triggerType", triggerType.toDocument) ::
          ("ok", .bool ok) :: ("steps", .integer steps) :: ("durationMs", .integer durationMs) ::
          (Document.optional "error" error .text ++ []))) =
      .ok ⟨some flowId, some triggerType, some ok, some steps, some durationMs,
        error.map some⟩ := by
    rw [fields_slot rfl rfl (text_draft _ _),
      fields_slot rfl rfl (TriggerType.reader_draft fits.spelled.named _),
      fields_slot rfl rfl (bool_draft _ _), fields_slot rfl rfl (word_draft fits.steps _),
      fields_slot rfl rfl (longWord_draft fits.durationMs _),
      fields_optional rfl rfl (optional_text_draft _)
        ⟨some flowId, some triggerType, some ok, some steps, some durationMs, error.map some⟩
        (by cases error <;> rfl)]
    rfl
  rw [shape, reader, record_object (by decide) read]
  · cases error <;> rfl
  · intro p h
    cases h
    cases error <;> rfl

end RunRecord

namespace RunResult

structure Fits (r : RunResult) : Prop where
  record : r.record.Fits
  items : ∀ m ∈ r.items, m.Whole

theorem reader_draft {r : RunResult} (fits : r.Fits) : reader 0 r.toDocument.draft = .ok r := by
  obtain ⟨ok, flowId, triggerType, steps, durationMs, error, items⟩ := r
  have spelled : triggerType.Spelled := fits.record.spelled
  have few : steps < 2 ^ 32 := fits.record.steps
  have short : durationMs < 2 ^ 64 := fits.record.durationMs
  have whole : ∀ m ∈ items, m.Whole := fits.items
  have shape : toDocument ⟨ok, flowId, triggerType, steps, durationMs, error, items⟩ =
      .object (("ok", .bool ok) :: ("flowId", .text flowId) ::
        ("triggerType", triggerType.toDocument) :: ("steps", .integer steps) ::
        ("durationMs", .integer durationMs) ::
        (Document.optional "error" error .text ++
          [("items", .array (items.map itemDocument))])) := by
    rw [toDocument]
    simp only [List.cons_append, List.nil_append]
  have read : fields slots 1 none {} (Document.draftMembers
        (("ok", .bool ok) :: ("flowId", .text flowId) ::
          ("triggerType", triggerType.toDocument) :: ("steps", .integer steps) ::
          ("durationMs", .integer durationMs) ::
          (Document.optional "error" error .text ++
            [("items", .array (items.map itemDocument))]))) =
      .ok ⟨some ok, some flowId, some triggerType, some steps, some durationMs, error.map some,
        some items⟩ := by
    rw [fields_slot rfl rfl (bool_draft _ _), fields_slot rfl rfl (text_draft _ _),
      fields_slot rfl rfl (TriggerType.reader_draft spelled.named _),
      fields_slot rfl rfl (word_draft few _), fields_slot rfl rfl (longWord_draft short _),
      fields_optional rfl rfl (optional_text_draft _)
        ⟨some ok, some flowId, some triggerType, some steps, some durationMs, error.map some, none⟩
        (by cases error <;> rfl),
      fields_slot rfl rfl (list_itemReader_draft whole (by decide))]
    rfl
  rw [shape, reader, record_object (by decide) read]
  · cases error <;> rfl
  · intro p h
    cases h
    cases error <;> rfl

end RunResult

/-! ### Grants and settings -/

theorem SideEffect.reader_draft (effect : SideEffect) (depth : Nat) :
    SideEffect.reader depth (Document.text effect.name).draft = .ok effect :=
  variant_draft (by cases effect <;> rfl) depth

theorem EffectSet.reader_draft (s : EffectSet) {depth : Nat} (room : depth < Json.depthLimit) :
    EffectSet.reader depth s.toDocument.draft = .ok s := by
  have names : list SideEffect.reader depth s.toDocument.draft = .ok s.toList := by
    rw [toDocument, list_eq_ok_iff room, List.forall₂_same]
    exact fun effect _ => effect.reader_draft (depth + 1)
  rw [reader, names]
  exact congrArg Except.ok s.ofList_toList

theorem Grants.reader_draft (g : Grants) : Grants.reader 0 g.toDocument.draft = .ok g := by
  have read : fields slots 1 none {} (Document.draftMembers
        [("sideEffects", g.sideEffects.toDocument)]) = .ok ⟨some g.sideEffects⟩ := by
    rw [fields_slot rfl rfl (g.sideEffects.reader_draft (by decide))]
    rfl
  rw [toDocument, reader, record_object (by decide) read]
  · rfl
  · intro p h
    cases h
    rfl

namespace WindowLimit

structure Fits (w : WindowLimit) : Prop where
  limit : w.limit < 2 ^ 32
  windowSecs : w.windowSecs < 2 ^ 64

theorem reader_draft {w : WindowLimit} (fits : w.Fits) {depth : Nat}
    (room : depth < Json.depthLimit) : WindowLimit.reader depth w.toDocument.draft = .ok w := by
  have read : fields slots (depth + 1) none {} (Document.draftMembers
        [("limit", .integer w.limit), ("windowSecs", .integer w.windowSecs)]) =
      .ok ⟨some w.limit, some w.windowSecs⟩ := by
    rw [fields_slot rfl rfl (word_draft fits.limit _),
      fields_slot rfl rfl (longWord_draft fits.windowSecs _)]
    rfl
  rw [toDocument, reader, record_object room read]
  · rfl
  · intro p h
    cases h
    rfl

end WindowLimit

namespace AdmissionSettings

structure Fits (s : AdmissionSettings) : Prop where
  timer : s.timer.Fits
  message : s.message.Fits
  ui : s.ui.Fits

theorem reader_draft {s : AdmissionSettings} (fits : s.Fits) {depth : Nat}
    (room : depth + 1 < Json.depthLimit) :
    AdmissionSettings.reader depth s.toDocument.draft = .ok s := by
  have read : fields slots (depth + 1) none {} (Document.draftMembers
        [("timer", s.timer.toDocument), ("message", s.message.toDocument),
          ("ui", s.ui.toDocument)]) = .ok ⟨some s.timer, some s.message, some s.ui⟩ := by
    rw [fields_slot rfl rfl (WindowLimit.reader_draft fits.timer room),
      fields_slot rfl rfl (WindowLimit.reader_draft fits.message room),
      fields_slot rfl rfl (WindowLimit.reader_draft fits.ui room)]
    rfl
  rw [toDocument, reader, record_object (Nat.lt_of_succ_lt room) read]
  · rfl
  · intro p h
    cases h
    rfl

end AdmissionSettings

theorem RedactionSettings.reader_draft {s : RedactionSettings} (fits : s.maxValueLen < 2 ^ 64)
    {depth : Nat} (room : depth < Json.depthLimit) :
    RedactionSettings.reader depth s.toDocument.draft = .ok s := by
  have read : fields slots (depth + 1) none {} (Document.draftMembers
        [("maxValueLen", .integer s.maxValueLen)]) = .ok ⟨some s.maxValueLen⟩ := by
    rw [fields_slot rfl rfl (count_draft fits _)]
    rfl
  rw [toDocument, reader, record_object room read]
  · rfl
  · intro p h
    cases h
    rfl

namespace NetworkSettings

structure Fits (s : NetworkSettings) : Prop where
  defaultTimeoutMs : s.defaultTimeoutMs < 2 ^ 64
  minTimeoutMs : s.minTimeoutMs < 2 ^ 64
  maxTimeoutMs : s.maxTimeoutMs < 2 ^ 64
  defaultMaxBytes : s.defaultMaxBytes < 2 ^ 64
  maxBytesCeiling : s.maxBytesCeiling < 2 ^ 64

theorem reader_draft {s : NetworkSettings} (fits : s.Fits) {depth : Nat}
    (room : depth < Json.depthLimit) :
    NetworkSettings.reader depth s.toDocument.draft = .ok s := by
  have read : fields slots (depth + 1) none {} (Document.draftMembers
        [("defaultTimeoutMs", .integer s.defaultTimeoutMs),
          ("minTimeoutMs", .integer s.minTimeoutMs), ("maxTimeoutMs", .integer s.maxTimeoutMs),
          ("defaultMaxBytes", .integer s.defaultMaxBytes),
          ("maxBytesCeiling", .integer s.maxBytesCeiling),
          ("resolveBeforeConnect", .bool s.resolveBeforeConnect)]) =
      .ok ⟨some s.defaultTimeoutMs, some s.minTimeoutMs, some s.maxTimeoutMs,
        some s.defaultMaxBytes, some s.maxBytesCeiling, some s.resolveBeforeConnect⟩ := by
    rw [fields_slot rfl rfl (longWord_draft fits.defaultTimeoutMs _),
      fields_slot rfl rfl (longWord_draft fits.minTimeoutMs _),
      fields_slot rfl rfl (longWord_draft fits.maxTimeoutMs _),
      fields_slot rfl rfl (longWord_draft fits.defaultMaxBytes _),
      fields_slot rfl rfl (longWord_draft fits.maxBytesCeiling _),
      fields_slot rfl rfl (bool_draft _ _)]
    rfl
  rw [toDocument, reader, record_object room read]
  · rfl
  · intro p h
    cases h
    rfl

end NetworkSettings

namespace Settings

structure Fits (s : Settings) : Prop where
  maxStepsPerRun : s.maxStepsPerRun < 2 ^ 32
  historyCapacity : s.historyCapacity < 2 ^ 64
  maxValueLen : s.redaction.maxValueLen < 2 ^ 64
  rateLimits : s.rateLimits.Fits
  network : s.network.Fits

theorem reader_draft {s : Settings} (fits : s.Fits) :
    Settings.reader 0 s.toDocument.draft = .ok s := by
  have read : fields slots 1 none {} (Document.draftMembers
        [("maxStepsPerRun", .integer s.maxStepsPerRun),
          ("historyCapacity", .integer s.historyCapacity), ("traceNodes", .bool s.traceNodes),
          ("redaction", s.redaction.toDocument), ("rateLimits", s.rateLimits.toDocument),
          ("network", s.network.toDocument)]) =
      .ok ⟨some s.maxStepsPerRun, some s.historyCapacity, some s.traceNodes, some s.redaction,
        some s.rateLimits, some s.network⟩ := by
    rw [fields_slot rfl rfl (word_draft fits.maxStepsPerRun _),
      fields_slot rfl rfl (count_draft fits.historyCapacity _),
      fields_slot rfl rfl (bool_draft _ _),
      fields_slot rfl rfl (RedactionSettings.reader_draft fits.maxValueLen (by decide)),
      fields_slot rfl rfl (AdmissionSettings.reader_draft fits.rateLimits (by decide)),
      fields_slot rfl rfl (NetworkSettings.reader_draft fits.network (by decide))]
    rfl
  rw [toDocument, reader, record_object (by decide) read]
  · rfl
  · intro p h
    cases h
    rfl

end Settings

/-! ### Flows -/

namespace Flow

/-- A flow whose trigger types are spelled and whose nodes have no numbers other than whole ones. -/
structure Whole (f : Flow) : Prop where
  spelled : ∀ t ∈ f.triggers, t.type.Spelled
  params : ∀ n ∈ f.nodes, n.params.Whole

theorem read_written_of_whole {f : Flow} (whole : f.Whole) :
    Json.read reader f.toDocument.bytes = .ok f := by
  refine (read_written_iff fun t ht => (whole.spelled t ht).named).2 ⟨rfl, ?_⟩
  exact List.forall₂_same.2 fun n hn => ⟨rfl, (whole.params n hn).readsAs⟩

end Flow

theorem Node.reader_draft_of_whole {n : Node} (whole : n.params.Whole) :
    Node.reader 0 n.toDocument.draft = .ok n :=
  (Node.reader_eq_ok_iff (by decide)).2 ⟨rfl, whole.readsAs⟩

/-- Whatever is written as JSON is read back as it was, when its numbers are whole and small, its
trigger types are spelled and its counts fit their words. -/
theorem read_written_forms :
    (∀ f : Flow, f.Whole → Json.read Flow.reader f.toDocument.bytes = .ok f) ∧
      (∀ t : Trigger, t.type.Spelled → Json.read Trigger.reader t.toDocument.bytes = .ok t) ∧
      (∀ n : Node, n.params.Whole → Json.read Node.reader n.toDocument.bytes = .ok n) ∧
      (∀ c : Context, c.Whole → Json.read Context.reader c.toDocument.bytes = .ok c) ∧
      (∀ r : RunResult, r.Fits → Json.read RunResult.reader r.toDocument.bytes = .ok r) ∧
      (∀ r : RunRecord, r.Fits → Json.read RunRecord.reader r.toDocument.bytes = .ok r) ∧
      (∀ g : Grants, Json.read Grants.reader g.toDocument.bytes = .ok g) ∧
      ∀ s : Settings, s.Fits → Json.read Settings.reader s.toDocument.bytes = .ok s := by
  refine ⟨fun f => Flow.read_written_of_whole, ?_⟩
  simp only [Document.read_bytes]
  exact ⟨fun t spelled => Trigger.reader_draft (by decide) spelled.named,
    fun n => Node.reader_draft_of_whole, fun c => Context.reader_draft,
    fun r => RunResult.reader_draft, fun r => RunRecord.reader_draft, Grants.reader_draft,
    fun s => Settings.reader_draft⟩

/-! ### Forms that leave most out -/

namespace Node

def sparse : Node :=
  { id := "keep", type := "SetState",
    params := .ofList [("count", .number Number.zero.neg), ("note", .null)], next := some "" }

theorem whole_params_sparse : sparse.params.Whole := by
  have ordered : ["count", "note"].Pairwise (· < ·) := by decide +kernel
  have entries : sparse.params.entries =
      [("count", .number Number.zero.neg), ("note", .null)] := KeyMap.entries_ofList ordered
  rw [KeyMap.Whole, entries]
  rintro e he x hx
  rcases List.mem_cons.1 he with rfl | he
  · cases hx
    exact ⟨by decide +kernel, 0, by decide +kernel, by decide⟩
  · cases List.mem_singleton.1 he
    cases hx

end Node

def Trigger.sparse : Trigger :=
  { type := .ofName "OnClose", targetId := some "", startNodeId := "keep" }

def Flow.sparse : Flow := { id := "", triggers := [.sparse], nodes := [.sparse] }

def Context.sparse : Context := { items := [] }

def RunResult.sparse : RunResult :=
  { ok := true, flowId := "", triggerType := .onLoad, steps := 0, durationMs := 0 }

theorem RunResult.fits_sparse : RunResult.sparse.Fits :=
  ⟨⟨⟨"OnLoad", rfl⟩, by decide, by decide⟩, List.forall_mem_nil _⟩

theorem read_written_sparse_forms :
    Json.read Flow.reader Flow.sparse.toDocument.bytes = .ok .sparse ∧
      Json.read Trigger.reader Trigger.sparse.toDocument.bytes = .ok .sparse ∧
      Json.read Node.reader Node.sparse.toDocument.bytes = .ok .sparse ∧
      Json.read Context.reader Context.sparse.toDocument.bytes = .ok .sparse ∧
      Json.read RunResult.reader RunResult.sparse.toDocument.bytes = .ok .sparse ∧
      Json.read RunRecord.reader RunResult.sparse.record.toDocument.bytes =
        .ok RunResult.sparse.record ∧
      Json.read Settings.reader (Settings.toDocument {}).bytes = .ok {} := by
  obtain ⟨flows, triggers, nodes, contexts, results, records, -, settings⟩ := read_written_forms
  have spelled : Trigger.sparse.type.Spelled := ⟨"OnClose", rfl⟩
  refine ⟨flows _ ⟨?_, ?_⟩, triggers _ spelled, nodes _ Node.whole_params_sparse,
    contexts _ ⟨?_, List.forall_mem_nil _⟩, results _ RunResult.fits_sparse,
    records _ RunResult.fits_sparse.record, settings _ ?_⟩
  · exact List.forall_mem_singleton.2 spelled
  · exact List.forall_mem_singleton.2 Node.whole_params_sparse
  · exact List.forall_mem_nil _
  · exact ⟨by decide, by decide, by decide,
      ⟨⟨by decide, by decide⟩, ⟨by decide, by decide⟩, ⟨by decide, by decide⟩⟩,
      ⟨by decide, by decide, by decide, by decide, by decide⟩⟩

end PluginFlow
