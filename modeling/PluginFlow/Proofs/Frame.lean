import PluginFlow.Proofs.Atomicity

/-!
What a node can change. Each kind of node writes to the few keys of the state that it is meant for,
and always to the same ones, however its call ends; only nodes on rows touch the rows. All else
stays as it was, and nothing is ever removed.
-/

namespace PluginFlow

namespace KeyMap

variable {α : Type}

/-- Putting entries in keeps the keys that there were and adds those of the entries. -/
theorem mem_keys_insertAll {m : KeyMap α} {es : List (String × α)} {key : String} :
    key ∈ (m.insertAll es).keys ↔ key ∈ m.keys ∨ key ∈ es.map (·.1) := by
  induction es generalizing m with
  | nil => simp [insertAll]
  | cons e es ih =>
    have put : key ∈ (m.insert e.1 e.2).keys ↔ key ∈ m.keys ∨ key = e.1 :=
      mem_keys_insertEntry.trans or_comm
    rw [insertAll, List.foldl_cons, ← insertAll, ih, put, List.map_cons, List.mem_cons, or_assoc]

/-- Of entries with different keys each one can be looked up after it was put in. -/
theorem get?_insertAll_of_mem {m : KeyMap α} {es : List (String × α)}
    (apart : (es.map (·.1)).Nodup) {key : String} {value : α} (h : (key, value) ∈ es) :
    (m.insertAll es).get? key = some value := by
  induction es generalizing m with
  | nil => cases h
  | cons e es ih =>
    rw [List.map_cons, List.nodup_cons] at apart
    rw [insertAll, List.foldl_cons, ← insertAll]
    rcases List.mem_cons.1 h with rfl | later
    · rw [get?_insertAll_of_not_mem apart.1, get?_insert, if_pos rfl]
    · exact ih apart.2 later

theorem get?_insertAll_pair {m : KeyMap α} {k k' : String} (apart : k ≠ k')
    (v v' : α) : (m.insertAll [(k, v), (k', v')]).get? k = some v ∧
      (m.insertAll [(k, v), (k', v')]).get? k' = some v' := by
  have apart : ([(k, v), (k', v')].map (·.1)).Nodup := by simpa using apart
  constructor <;> exact get?_insertAll_of_mem apart (by simp)

end KeyMap

namespace Turn

def footprint (t : Turn) : List String :=
  match NodeKind.ofName? t.node.type with
  | some .setState | some .increment => (t.param? "key").toList.map Value.toText
  | some .navigate | some .showImage => [currentScreenKey]
  | some .curl => [t.bodyKey, t.statusKey, t.contentTypeKey]
  | some .ping => [t.okKey, t.latencyKey]
  | some .captureImage => [t.imageKey, t.imageStatusKey]
  | _ => []

/-- An outcome that writes to some keys, to each of them and to no other. -/
def WritesTo (keys : List String) (o : Outcome) : Prop := o.writes.map (·.1) = keys

theorem curl_writesTo (t : Turn) :
    t.curl.Always (WritesTo [t.bodyKey, t.statusKey, t.contentTypeKey]) := by
  rcases t.curl_cases with ⟨-, h⟩ | ⟨v, -, h⟩ | ⟨u, timeout, maxBytes, -, -, -, h⟩
  · rw [h]
    exact Plan.always_fail
  · rw [h]
    exact Plan.always_done.2 rfl
  · rw [h]
    refine Plan.always_ask.2 fun a => ?_
    cases a <;> rfl

theorem ping_writesTo (t : Turn) : t.ping.Always (WritesTo [t.okKey, t.latencyKey]) := by
  rcases t.ping_cases with ⟨-, h⟩ | ⟨v, -, h⟩ | ⟨timeout, -, -, h⟩
  · rw [h]
    exact Plan.always_fail
  · rw [h]
    exact Plan.always_done.2 rfl
  · rw [h]
    refine Plan.always_ask.2 fun a => ?_
    cases a <;> rfl

theorem captureImage_writesTo (t : Turn) :
    t.captureImage.Always (WritesTo [t.imageKey, t.imageStatusKey]) := by
  refine Plan.always_ask.2 fun a => ?_
  cases a <;> rfl

/-- The key of a node that writes to the key it demands. -/
theorem writesTo_key {t : Turn} {value : Value → Value} :
    (Plan.require (t.required "key") fun key =>
      .done (t.write [(key.toText, value key)])).Always
        (WritesTo ((t.param? "key").toList.map Value.toText)) := by
  refine Plan.always_require.2 fun key found => Plan.always_done.2 ?_
  have declared : t.param? "key" = some key := by
    unfold required at found
    split at found
    · rename_i v hv
      cases found
      exact hv
    · cases found
  rw [declared]
  rfl

/-- A node that comes to an outcome writes to its whole footprint and to nothing else. -/
theorem plan_writesTo (t : Turn) : t.plan.Always (WritesTo t.footprint) := by
  cases hk : NodeKind.ofName? t.node.type with
  | none =>
    simp only [plan, footprint, hk]
    exact Plan.always_done.2 rfl
  | some k =>
    cases k <;> simp only [plan, footprint, hk]
    case ifElse => exact Plan.always_done.2 rfl
    case setField => exact Plan.always_require.2 fun _ _ => Plan.always_done.2 rfl
    case filter => exact Plan.always_done.2 rfl
    case setState => exact writesTo_key
    case increment => exact writesTo_key
    case showToast => exact Plan.always_require.2 fun _ _ => Plan.always_ask.2 fun _ => rfl
    case showDialog => exact Plan.always_require.2 fun _ _ => Plan.always_ask.2 fun _ => rfl
    case navigate => exact Plan.always_require.2 fun _ _ => Plan.always_ask.2 fun _ => rfl
    case showImage => exact Plan.always_require.2 fun _ _ => Plan.always_ask.2 fun _ => rfl
    case emitMessage => exact Plan.always_done.2 rfl
    case persistState => exact Plan.always_ask.2 fun _ => rfl
    case curl => exact t.curl_writesTo
    case ping => exact t.ping_writesTo
    case captureImage => exact t.captureImage_writesTo

/-- Only nodes on rows change rows. -/
theorem items_of_leaves {t : Turn} (h₁ : NodeKind.ofName? t.node.type ≠ some .setField)
    (h₂ : NodeKind.ofName? t.node.type ≠ some .filter) {o : Outcome} (h : t.plan.Leaves o) :
    o.items = t.context.items := by
  by_cases branches : NodeKind.ofName? t.node.type = some .ifElse
  · simp only [plan, branches, ifElse, Plan.leaves_done] at h
    rw [h]
  · obtain ⟨notes, writes, rfl⟩ := plan_moves branches h₁ h₂ o h
    rfl

/-- What a turn leaves alone, seen from the state and the context after it. -/
structure Frames (t : Turn) (state : KeyMap Value) (c : Context) : Prop where
  untouched : ∀ key, key ∉ t.footprint → state.get? key = t.state.get? key
  kept : ∀ key ∈ t.state.keys, key ∈ state.keys
  rows : NodeKind.ofName? t.node.type ≠ some .setField →
    NodeKind.ofName? t.node.type ≠ some .filter → c.items = t.context.items
  targetId : c.targetId = t.context.targetId
  data : c.data = t.context.data

theorem frames_self (t : Turn) : t.Frames t.state t.context :=
  ⟨fun _ _ => rfl, fun _ h => h, fun _ _ => rfl, rfl, rfl⟩

theorem frames_of_leaves {t : Turn} {o : Outcome} (h : t.plan.Leaves o) :
    t.Frames (t.state.insertAll o.writes) { t.context with items := o.items } where
  untouched key outside := by
    have written : o.writes.map (·.1) = t.footprint := t.plan_writesTo o h
    exact KeyMap.get?_insertAll_of_not_mem (written ▸ outside)
  kept key held := KeyMap.mem_keys_insertAll.2 (.inl held)
  rows h₁ h₂ := items_of_leaves h₁ h₂ h
  targetId := rfl
  data := rfl

end Turn

namespace Dispatch

theorem Possible.frames {d : Dispatch} (possible : d.Possible) :
    d.turn.Frames d.stateAfter d.contextAfter := by
  obtain ⟨t, result⟩ := d
  cases result with
  | error fault => exact t.frames_self
  | ok o => exact Turn.frames_of_leaves (possible o rfl)

/-- A turn that succeeds leaves a value under every key of its footprint. -/
theorem Possible.mem_keys {d : Dispatch} (possible : d.Possible) (succeeded : d.Succeeded)
    {key : String} (inside : key ∈ d.turn.footprint) : key ∈ d.stateAfter.keys := by
  obtain ⟨t, result⟩ := d
  obtain ⟨o, rfl⟩ := succeeded
  have written : o.writes.map (·.1) = t.footprint := t.plan_writesTo o (possible o rfl)
  exact KeyMap.mem_keys_insertAll.2 (.inr (written ▸ inside))

end Dispatch

/-- Turns leave alone what each of them leaves alone. -/
theorem Leads.untouched {state state' : KeyMap Value} {c c' : Context} {ds : List Dispatch}
    {key : String} (h : Leads state c ds state' c') (outside : ∀ d ∈ ds, key ∉ d.turn.footprint) :
    state'.get? key = state.get? key := by
  induction h with
  | nil => rfl
  | cons possible _ ih =>
    rw [List.forall_mem_cons] at outside
    rw [ih outside.2, possible.frames.untouched key outside.1]

theorem Leads.kept {state state' : KeyMap Value} {c c' : Context} {ds : List Dispatch}
    {key : String} (h : Leads state c ds state' c') (held : key ∈ state.keys) :
    key ∈ state'.keys := by
  induction h with
  | nil => exact held
  | cons possible _ ih => exact ih (possible.frames.kept key held)

theorem Leads.rows {state state' : KeyMap Value} {c c' : Context} {ds : List Dispatch}
    (h : Leads state c ds state' c')
    (apart : ∀ d ∈ ds, NodeKind.ofName? d.turn.node.type ≠ some .setField ∧
      NodeKind.ofName? d.turn.node.type ≠ some .filter) : c'.items = c.items := by
  induction h with
  | nil => rfl
  | cons possible _ ih =>
    rw [List.forall_mem_cons] at apart
    rw [ih apart.2, possible.frames.rows apart.1.1 apart.1.2]

namespace Engine

variable {σ ω : Type} {e : Engine σ ω} {f : Flow}

/-- To give a node its turn is to dispatch it: its plan comes to something, and the state and the
context are those after that. -/
theorem exists_dispatch (e : Engine σ ω) (f : Flow) (n : Node) (c : Context) (s : Session σ ω) :
    ∃ d : Dispatch, d.turn = e.turn f n s.state c ∧ d.Possible ∧
      d.result = (e.carryOut (e.turn f n s.state c).plan s).1 ∧
      (e.visit f n c s).1 = d.result.map (fun o => o.next.bind nonBlank) ∧
      (e.visit f n c s).2.1 = d.contextAfter ∧ (e.visit f n c s).2.2.state = d.stateAfter := by
  have kept := e.state_carryOut (e.turn f n s.state c).plan s
  rcases h : e.carryOut (e.turn f n s.state c).plan s with ⟨fault | o, s'⟩
  · refine ⟨⟨e.turn f n s.state c, .error fault⟩, rfl, ?_, rfl, ?_⟩
    · rintro _ ⟨⟩
    · rw [h] at kept
      simp only [visit_eq, h, state_trace]
      exact ⟨rfl, rfl, kept⟩
  · refine ⟨⟨e.turn f n s.state c, .ok o⟩, rfl, ?_, rfl, ?_⟩
    · rintro _ ⟨⟩
      exact leaves_of_carryOut h
    · rw [h] at kept
      simp only [visit_eq, h, state_trace, state_settle]
      exact ⟨rfl, rfl, congrArg (·.insertAll o.writes) kept⟩

/-- A node changes the state nowhere but at its footprint, which it writes to in full when it
succeeds; it removes no key, and touches the rows only if it works on rows. So a run leaves alone
what each of its turns leaves alone, and removes no key either. -/
theorem execute_frames (e : Engine σ ω) (f : Flow) :
    (∀ (n : Node) (c : Context) (s : Session σ ω),
      (e.turn f n s.state c).Frames (e.visit f n c s).2.2.state (e.visit f n c s).2.1 ∧
      ∀ next, (e.visit f n c s).1 = .ok next →
        ∀ key ∈ (e.turn f n s.state c).footprint, key ∈ (e.visit f n c s).2.2.state.keys) ∧
    ∀ (trigger : Trigger) (c : Context) (s : Session σ ω),
      ∃ turns w, e.Runs f trigger c s turns w ∧
        (∀ key, (∀ t ∈ turns, key ∉ t.footprint) →
          (e.execute f trigger c s).2.state.get? key = s.state.get? key) ∧
        (∀ key ∈ s.state.keys, key ∈ (e.execute f trigger c s).2.state.keys) ∧
        ((∀ t ∈ turns, NodeKind.ofName? t.node.type ≠ some .setField ∧
          NodeKind.ofName? t.node.type ≠ some .filter) →
          (e.execute f trigger c s).1.items = c.items) := by
  constructor
  · intro n c s
    obtain ⟨d, turn, possible, -, next, context, state⟩ := e.exists_dispatch f n c s
    rw [← turn, next, context, state]
    refine ⟨possible.frames, ?_⟩
    intro next succeeded key inside
    refine possible.mem_keys ?_ inside
    cases result : d.result with
    | error fault =>
      rw [result] at succeeded
      cases succeeded
    | ok o => exact ⟨o, result⟩
  · intro trigger c s
    obtain ⟨turns, w, h⟩ := exists_runs e f trigger c s
    obtain ⟨ds, rfl, leads, -⟩ := h.exists_leads
    refine ⟨_, w, h, ?_, ?_, ?_⟩
    · intro key outside
      rw [h.state_eq]
      exact leads.untouched fun d hd => outside _ (List.mem_map_of_mem hd)
    · intro key held
      rw [h.state_eq]
      exact leads.kept held
    · intro apart
      rw [h.result_eq]
      exact leads.rows fun d hd => apart _ (List.mem_map_of_mem hd)

end Engine

def Session.packed : Session Unit Unit :=
  { Session.fresh with state := .ofList [("bag", .text "packed")] }

/-- Going to a screen leaves the bag alone and a value for the screen. -/
theorem Engine.departure_keeps_bag :
    (plain.visit Flow.departing Flow.departure {} .packed).2.2.state.get? "bag" =
        some (.text "packed") ∧
      currentScreenKey ∈ (plain.visit Flow.departing Flow.departure {} .packed).2.2.state.keys := by
  obtain ⟨frames, writes⟩ := (execute_frames plain Flow.departing).1 Flow.departure {} .packed
  have outside : "bag" ∉
      (plain.turn Flow.departing Flow.departure Session.packed.state {}).footprint := by
    decide +kernel
  constructor
  · rw [frames.untouched "bag" outside]
    decide +kernel
  · exact writes none rfl currentScreenKey (by decide +kernel)

end PluginFlow
