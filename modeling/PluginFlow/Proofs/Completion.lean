import PluginFlow.Proofs.Accepted
import PluginFlow.Proofs.Plan
import PluginFlow.Proofs.Run

/-!
Loaded flows do not fail. On a platform that answers, a run of an accepted flow completes, is
turned away or spends its steps.
-/

namespace PluginFlow

theorem Settings.bounds_of_fault? {s : Settings} (h : s.fault? = none) :
    s.network.minTimeoutMs ≤ s.network.maxTimeoutMs ∧ 1 ≤ s.network.maxBytesCeiling := by
  unfold fault? at h
  split at h
  · cases h
  split at h
  · cases h
  split at h
  · cases h
  rename_i timeouts
  split at h
  · cases h
  rename_i bytes
  constructor <;> omega

namespace NetworkSettings

theorem timeout?_ne_none {s : NetworkSettings} (h : s.minTimeoutMs ≤ s.maxTimeoutMs)
    (n : Option Int) : s.timeout? n ≠ none := by
  rw [← Option.isSome_iff_ne_none, timeout?, clamp?_isSome_iff]
  exact h

theorem maxBytes?_ne_none {s : NetworkSettings} (h : 1 ≤ s.maxBytesCeiling) (n : Option Int) :
    s.maxBytes? n ≠ none := by
  rw [← Option.isSome_iff_ne_none, maxBytes?, clamp?_isSome_iff]
  exact h

end NetworkSettings

/-- With sound settings a node fails by itself only for want of a param that its kind demands. -/
theorem Turn.lacks_param_of_plan_eq_fail {t : Turn} {k : NodeKind} {fault : NodeFault}
    (sound : t.settings.fault? = none) (hk : NodeKind.ofName? t.node.type = some k)
    (failed : t.plan = .fail fault) :
    ∃ p ∈ Catalog.params k, p.required = true ∧ p.defaultValue = none ∧
      t.param? p.key = none ∧ fault = .missingParam t.node.id p.key := by
  obtain ⟨timeouts, bytes⟩ := Settings.bounds_of_fault? sound
  cases lacks_of_plan_eq_fail hk failed with
  | param p declared required bare absent => exact ⟨p, declared, required, bare, absent, rfl⟩
  | timeout n crossed => exact absurd crossed (NetworkSettings.timeout?_ne_none timeouts n)
  | maxBytes n crossed => exact absurd crossed (NetworkSettings.maxBytes?_ne_none bytes n)

/-- A node of the built-in catalog that passed its checks comes to an outcome by itself. -/
theorem Turn.plan_ne_fail {t : Turn} {g : Grants} {sp : NodeSpec} (sound : t.settings.fault? = none)
    (h : t.node.Admissible Registry.builtin g sp) (fault : NodeFault) : t.plan ≠ .fail fault := by
  intro failed
  obtain ⟨k, hk, supplied, -⟩ := h.kind
  obtain ⟨p, declared, required, bare, absent, -⟩ := lacks_param_of_plan_eq_fail sound hk failed
  obtain ⟨v, hv⟩ := supplied p declared required bare
  rw [param?_of_present hv] at absent
  cases absent

def Place.Within {σ ω : Type} (f : Flow) (p : Place σ ω) : Prop :=
  ∀ id, p.pending = some id → Text.isBlankText id = false → id ∈ f.nodeIds

def Platform.Answers {σ : Type} (p : Platform σ) : Prop :=
  ∀ c world, (p.respond c world).answer.isSome = true

theorem Platform.answers_refusing : Platform.refusing.Answers := by
  intro c world
  rfl

namespace Engine

variable {σ ω : Type} {e : Engine σ ω} {f : Flow}

theorem carryOut_of_answers (answers : e.platform.Answers) {p : Plan}
    (safe : ∀ fault, p ≠ .fail fault) (s : Session σ ω) :
    ∃ o s', e.carryOut p s = (.ok o, s') := by
  cases p with
  | fail fault => exact absurd rfl (safe fault)
  | done o => exact ⟨o, s, rfl⟩
  | ask c resume =>
    obtain ⟨a, ha⟩ := Option.isSome_iff_exists.1 (answers c s.world)
    exact ⟨resume a, (e.ask c s).2, e.carryOut_of_answer ha⟩

/-- A node of an accepted flow comes to an outcome on a platform that answers. -/
theorem take_of_accepted {g : Grants} (accepted : f.Accepted Registry.builtin g)
    (sound : e.settings.fault? = none) (answers : e.platform.Answers) {n : Node} (hn : n ∈ f.nodes)
    (k : Nat) (p : Place σ ω) : ∃ o s', e.take f n k p = (.ok o, s') := by
  obtain ⟨sp, hsp⟩ := accepted.admissible n hn
  have safe : ∀ fault, (e.turnAt f n p).plan ≠ .fail fault := Turn.plan_ne_fail sound hsp
  exact carryOut_of_answers answers safe (announce f n k p.session)

/-- An accepted flow leads from its nodes to its nodes. -/
theorem within_leave {registry : Registry} {g : Grants} (accepted : f.Accepted registry g)
    {n : Node} (hn : n ∈ f.nodes) {p : Place σ ω} {o : Outcome}
    (ho : (e.turnAt f n p).plan.Leaves o) (s : Session σ ω) :
    (e.leave (e.turnAt f n p) o p s).Within f := by
  intro id hid hb
  apply accepted.leads n hn
  have hid : o.next = some id := hid
  refine List.mem_filterMap.2 ⟨o.next, ?_, by simp [hid, nonBlank, hb]⟩
  rcases Turn.next_of_leaves ho with h | h | h <;> rw [h]
  · exact List.mem_cons_self
  · exact List.mem_cons_of_mem _ List.mem_cons_self
  · exact List.mem_cons_of_mem _ (List.mem_cons_of_mem _ List.mem_cons_self)

/-- A walk over an accepted flow ends at a node without a successor or with its steps spent. -/
theorem Walks.completes {g : Grants} (accepted : f.Accepted Registry.builtin g)
    (sound : e.settings.fault? = none) (answers : e.platform.Answers) {k : Nat} {p : Place σ ω}
    {turns : List Turn} {w : Walked σ ω} (h : e.Walks f k p turns w) (within : p.Within f) :
    w.fault = none ∨ w.fault = some .stepLimitExceeded := by
  induction h with
  | finished _ => exact .inl rfl
  | exhausted _ => exact .inr rfl
  | lost _ awaits absent =>
    obtain ⟨n, hn, hid⟩ := List.mem_map.1 (within _ awaits.1 awaits.2)
    exact absurd hid (absent n hn)
  | failed _ _ holds taken =>
    obtain ⟨o, s', ht⟩ := take_of_accepted accepted sound answers holds.mem _ _
    rw [ht] at taken
    cases taken
  | onward _ _ holds taken _ ih =>
    exact ih (within_leave accepted holds.mem (leaves_of_take taken) _)

theorem within_startPlace {registry : Registry} {g : Grants} (accepted : f.Accepted registry g)
    {trigger : Trigger} (ht : trigger ∈ f.triggers) (c : Context) (s : Session σ ω) :
    (e.startPlace f trigger c s).Within f := by
  intro id hid _
  have hid : trigger.startNodeId = id := Option.some.inj hid
  exact hid ▸ accepted.starts trigger ht

/-- A run of an accepted flow completes, is turned away or spends its steps. -/
theorem Runs.completes {g : Grants} (accepted : f.Accepted Registry.builtin g)
    (sound : e.settings.fault? = none) (answers : e.platform.Answers) {trigger : Trigger}
    (ht : trigger ∈ f.triggers) {c : Context} {s : Session σ ω} {turns : List Turn}
    {w : Walked σ ω} (h : e.Runs f trigger c s turns w) :
    w.fault = none ∨ w.fault = some .rateLimited ∨ w.fault = some .stepLimitExceeded := by
  cases h with
  | rejected _ => exact .inr (.inl rfl)
  | admitted _ walks =>
    rcases walks.completes accepted sound answers (within_startPlace accepted ht c s) with h | h
    · exact .inl h
    · exact .inr (.inr h)

/-- What a loader with the built-in catalog gives never fails in a run: with sound settings, on a
platform that answers, a run of one of its triggers completes, is turned away or spends its
steps, whatever the rows and the state are. -/
theorem execute_loaded_completes {ω' : Type} {l : Loader ω'} {bytes : List UInt8} {g : Grants}
    {j : Journal ω'} {lf : LoadedFlow} (builtin : l.registry = Registry.builtin)
    (loaded : (l.load bytes g j).1 = .ok lf) (e : Engine σ ω) (sound : e.settings.fault? = none)
    (answers : e.platform.Answers) {trigger : Trigger} (ht : trigger ∈ lf.definition.triggers)
    (c : Context) (s : Session σ ω) :
    ((e.execute lf.definition trigger c s).1.ok = true ∧
        (e.execute lf.definition trigger c s).1.error = none) ∨
      ((e.execute lf.definition trigger c s).1.ok = false ∧
        ((e.execute lf.definition trigger c s).1.error = some "rate_limited" ∨
          (e.execute lf.definition trigger c s).1.error = some "step_limit_exceeded")) := by
  have accepted := Loader.accepted_of_load loaded
  rw [builtin] at accepted
  obtain ⟨turns, w, h⟩ := exists_runs e lf.definition trigger c s
  rw [h.result_eq]
  rcases h.completes accepted sound answers ht with hf | hf | hf <;>
    simp [Walked.result, hf, RunFault.message]

theorem execute_greeting_completes :
    ((plain.execute Flow.greeting Flow.onClick {} Session.fresh).1.ok = true ∧
        (plain.execute Flow.greeting Flow.onClick {} Session.fresh).1.error = none) ∨
      ((plain.execute Flow.greeting Flow.onClick {} Session.fresh).1.ok = false ∧
        ((plain.execute Flow.greeting Flow.onClick {} Session.fresh).1.error =
            some "rate_limited" ∨
          (plain.execute Flow.greeting Flow.onClick {} Session.fresh).1.error =
            some "step_limit_exceeded")) :=
  execute_loaded_completes rfl Loader.load_greeting plain rfl Platform.answers_refusing
    (List.mem_singleton_self Flow.onClick) {} Session.fresh

end Engine
end PluginFlow
