import PluginFlow.Proofs.Accepted
import PluginFlow.Proofs.Run

/-!
Grants confine loaded flows. An engine never looks at grants; the checks of a flow and the catalog
see to it that its nodes call only what was granted.
-/

namespace PluginFlow

structure RunTrace (σ ω : Type) where
  turns : List Turn
  walked : Walked σ ω

namespace RunTrace

variable {σ ω : Type}

def nodeCalls (r : RunTrace σ ω) : List Call := r.turns.filterMap (·.plan.call?)

def calls (r : RunTrace σ ω) : List Call := r.nodeCalls ++ r.walked.report.toList

end RunTrace

namespace Engine

variable {σ ω : Type}

def serve (e : Engine σ ω) (f : Flow) (runs : List (Trigger × Context)) (s : Session σ ω) :
    Session σ ω :=
  runs.foldl (fun s r => (e.execute f r.1 r.2 s).2) s

inductive Serves (e : Engine σ ω) (f : Flow) :
    Session σ ω → List (Trigger × Context) → List (RunTrace σ ω) → Prop
  | nil {s : Session σ ω} : Serves e f s [] []
  | cons {s : Session σ ω} {trigger : Trigger} {c : Context} {turns : List Turn}
      {w : Walked σ ω} {runs : List (Trigger × Context)} {traces : List (RunTrace σ ω)}
      (first : e.Runs f trigger c s turns w)
      (rest : Serves e f (e.execute f trigger c s).2 runs traces) :
      Serves e f s ((trigger, c) :: runs) (⟨turns, w⟩ :: traces)

variable {e : Engine σ ω} {f : Flow}

theorem exists_serves (e : Engine σ ω) (f : Flow) (runs : List (Trigger × Context))
    (s : Session σ ω) : ∃ traces, e.Serves f s runs traces := by
  induction runs generalizing s with
  | nil => exact ⟨[], .nil⟩
  | cons r runs ih =>
    obtain ⟨turns, w, h⟩ := exists_runs e f r.1 r.2 s
    obtain ⟨traces, rest⟩ := ih (e.execute f r.1 r.2 s).2
    exact ⟨⟨turns, w⟩ :: traces, .cons h rest⟩

/-- Runs one after the other make the calls of each run in order. -/
theorem Serves.calls {s : Session σ ω} {runs : List (Trigger × Context)}
    {traces : List (RunTrace σ ω)} (h : e.Serves f s runs traces) :
    (e.serve f runs s).journal.calls =
      s.journal.calls ++ traces.flatMap RunTrace.calls := by
  induction h with
  | nil => simp [serve]
  | cons first _ ih =>
    rw [serve, List.foldl_cons, ← serve, ih, first.calls_eq]
    simp [RunTrace.calls, RunTrace.nodeCalls]

/-- Every turn of a sequence of runs is one of a node of the flow. -/
theorem Serves.exists_turnAt {s : Session σ ω} {runs : List (Trigger × Context)}
    {traces : List (RunTrace σ ω)} (h : e.Serves f s runs traces) {r : RunTrace σ ω}
    (hr : r ∈ traces) {t : Turn} (ht : t ∈ r.turns) :
    ∃ n ∈ f.nodes, ∃ q : Place σ ω, t = e.turnAt f n q := by
  induction h with
  | nil => cases hr
  | cons first _ ih =>
    rcases List.mem_cons.1 hr with rfl | hr
    · exact first.exists_turnAt ht
    · exact ih hr

theorem Runs.state_of_inert {trigger : Trigger} {c : Context} {s : Session σ ω}
    {turns : List Turn} {w : Walked σ ω} (h : e.Runs f trigger c s turns w)
    (inert : ∀ t ∈ turns, ∀ o, t.plan.Leaves o → o.writes = []) :
    (e.execute f trigger c s).2.state = s.state := by
  rw [h.state_eq]
  cases h with
  | rejected _ => rfl
  | admitted _ walks => exact walks.state_eq inert

/-- Runs whose turns write nothing keep the state. -/
theorem Serves.state_of_inert {s : Session σ ω} {runs : List (Trigger × Context)}
    {traces : List (RunTrace σ ω)} (h : e.Serves f s runs traces)
    (inert : ∀ r ∈ traces, ∀ t ∈ r.turns, ∀ o, t.plan.Leaves o → o.writes = []) :
    (e.serve f runs s).state = s.state := by
  induction h with
  | nil => rfl
  | cons first _ ih =>
    rw [serve, List.foldl_cons, ← serve, ih fun r hr => inert r (List.mem_cons_of_mem _ hr)]
    exact first.state_of_inert (inert _ List.mem_cons_self)

end Engine

/-- A node that passed its checks calls only what was granted. -/
theorem Turn.allows_of_call? {t : Turn} {g : Grants} {sp : NodeSpec} {c : Call}
    (h : t.node.Admissible Registry.builtin g sp) (hc : t.plan.call? = some c) :
    g.allows c.effect = true := by
  obtain ⟨k, hk, -, granted⟩ := h.kind
  exact granted _ (effect_of_call? hk hc)

/-- Without grants a node that passed its checks writes nothing. -/
theorem Turn.inert_of_empty {t : Turn} {sp : NodeSpec} {o : Outcome}
    (h : t.node.Admissible Registry.builtin .empty sp) (ho : t.plan.Leaves o) : o.writes = [] := by
  obtain ⟨k, hk, -, granted⟩ := h.kind
  apply writes_eq_nil_of_leaves hk ?_ ho
  apply List.eq_nil_iff_forall_not_mem.2
  intro x hx
  have hg := granted x hx
  cases x <;> cases hg

theorem Grants.not_allows_empty (x : SideEffect) : Grants.empty.allows x = false := by
  cases x <;> rfl

namespace Engine

variable {σ ω : Type}

/-- What a loader with the built-in catalog gives stays within its grants over any sequence of
runs: the calls are those of its nodes, each of a granted class, and the dialogs that report failed
nodes. Without grants the nodes call nothing and the state stays. -/
theorem serve_loaded_confined {ω' : Type} {l : Loader ω'} {bytes : List UInt8} {g : Grants}
    {j : Journal ω'} {lf : LoadedFlow} (builtin : l.registry = Registry.builtin)
    (loaded : (l.load bytes g j).1 = .ok lf) (e : Engine σ ω)
    (runs : List (Trigger × Context)) (s : Session σ ω) :
    ∃ traces, e.Serves lf.definition s runs traces ∧
      (e.serve lf.definition runs s).journal.calls =
        s.journal.calls ++ traces.flatMap RunTrace.calls ∧
      (∀ r ∈ traces, ∀ c ∈ r.nodeCalls, g.allows c.effect = true) ∧
      (g = .empty →
        (e.serve lf.definition runs s).state = s.state ∧ ∀ r ∈ traces, r.nodeCalls = []) := by
  have accepted := Loader.accepted_of_load loaded
  rw [builtin] at accepted
  obtain ⟨traces, h⟩ := exists_serves e lf.definition runs s
  have confined : ∀ r ∈ traces, ∀ c ∈ r.nodeCalls, g.allows c.effect = true := by
    intro r hr c hc
    obtain ⟨t, ht, htc⟩ := List.mem_filterMap.1 hc
    obtain ⟨n, hn, q, rfl⟩ := h.exists_turnAt hr ht
    obtain ⟨sp, hsp⟩ := accepted.admissible n hn
    exact Turn.allows_of_call? hsp htc
  refine ⟨traces, h, h.calls, confined, ?_⟩
  rintro rfl
  constructor
  · apply h.state_of_inert
    intro r hr t ht o ho
    obtain ⟨n, hn, q, rfl⟩ := h.exists_turnAt hr ht
    obtain ⟨sp, hsp⟩ := accepted.admissible n hn
    exact Turn.inert_of_empty hsp ho
  · intro r hr
    apply List.eq_nil_iff_forall_not_mem.2
    intro c hc
    have hg := confined r hr c hc
    rw [Grants.not_allows_empty] at hg
    cases hg

theorem serve_greeting_confined :
    ∃ traces, plain.Serves Flow.greeting Session.fresh [(Flow.onClick, {})] traces ∧
      (plain.serve Flow.greeting [(Flow.onClick, {})] Session.fresh).journal.calls =
        Session.fresh.journal.calls ++ traces.flatMap RunTrace.calls ∧
      ∀ r ∈ traces, ∀ c ∈ r.nodeCalls, (Grants.ofList [.ui]).allows c.effect = true := by
  obtain ⟨traces, h, calls, confined, -⟩ :=
    serve_loaded_confined rfl Loader.load_greeting plain [(Flow.onClick, {})] Session.fresh
  exact ⟨traces, h, calls, confined⟩

end Engine
end PluginFlow
