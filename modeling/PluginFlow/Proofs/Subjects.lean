import PluginFlow.Proofs.Admission
import PluginFlow.Proofs.Bookkeeping

/-!
What admission counts together. Runs are counted by the text of their key, which joins a flow, a
trigger type and a selector with colons. Where two flows and two types have equally many colons,
the key tells the subjects of runs apart, and no run uses up the window of another subject.
-/

namespace PluginFlow

structure Subject where
  flowId : String
  type : TriggerType
  selector : Option String := none
  deriving DecidableEq

namespace Subject

def key (x : Subject) : String := Limiter.key x.flowId x.type x.selector

/-- The same flow, trigger type and selector; no selector counts as the empty one. -/
def Same (x y : Subject) : Prop :=
  x.flowId = y.flowId ∧ x.type.name = y.type.name ∧ x.selector.getD "" = y.selector.getD ""

instance (x y : Subject) : Decidable (x.Same y) := inferInstanceAs (Decidable (_ ∧ _ ∧ _))

def colons (s : String) : Nat := s.toList.count ':'

/-- As many colons in the flow and in the trigger type. -/
def Aligned (x y : Subject) : Prop :=
  colons x.flowId = colons y.flowId ∧ colons x.type.name = colons y.type.name

theorem append_cons_inj {α : Type} [DecidableEq α] {c : α} {xs ys xs' ys' : List α}
    (counted : xs.count c = ys.count c) :
    xs ++ c :: xs' = ys ++ c :: ys' ↔ xs = ys ∧ xs' = ys' := by
  induction xs generalizing ys with
  | nil =>
    cases ys with
    | nil => simp
    | cons y ys =>
      have other : c ≠ y := by
        rintro rfl
        simp at counted
      simp [other]
  | cons x xs ih =>
    cases ys with
    | nil =>
      have other : x ≠ c := by
        rintro rfl
        simp at counted
      simp [other]
    | cons y ys =>
      simp only [List.cons_append, List.cons.injEq]
      constructor
      · rintro ⟨rfl, h⟩
        rw [List.count_cons, List.count_cons, Nat.add_right_cancel_iff] at counted
        obtain ⟨rfl, rfl⟩ := (ih counted).1 h
        exact ⟨⟨rfl, rfl⟩, rfl⟩
      · rintro ⟨⟨rfl, rfl⟩, rfl⟩
        exact ⟨rfl, rfl⟩

theorem toList_key (x : Subject) :
    x.key.toList =
      x.flowId.toList ++ ':' :: (x.type.name.toList ++ ':' :: (x.selector.getD "").toList) := by
  simp [key, Limiter.key, String.toList_append]

/-- The key tells aligned subjects apart. -/
theorem key_eq_iff {x y : Subject} (aligned : x.Aligned y) : x.key = y.key ↔ x.Same y := by
  rw [← String.toList_inj, toList_key, toList_key, append_cons_inj aligned.1,
    append_cons_inj aligned.2]
  simp only [String.toList_inj, Same]

end Subject

structure Visit where
  subject : Subject
  now : Nat
  deriving DecidableEq

namespace Limiter

def attend (l : Limiter) (visits : List Visit) : Limiter :=
  visits.foldl (fun l v => (l.acquire v.subject.key v.subject.type v.now).2) l

def decides (l : Limiter) (v : Visit) : Bool :=
  (l.acquire v.subject.key v.subject.type v.now).1

variable {l l' : Limiter} {key : String} {start now : Nat}

/-- Windows that have passed may be forgotten: from then on they count as none. -/
theorem current_pruned (l : Limiter) (asked key : String) (length : Nat) (h : start ≤ now) :
    current (l.pruned asked start) key length now = current l.windows key length now := by
  unfold current
  rcases l.get?_pruned asked key start with found | found
  · rw [found]
  · rw [found]
    cases l.windows.get? key with
    | none => rfl
    | some w =>
      cases passed : w.passed start with
      | false => simp [Option.filter_some, passed]
      | true =>
        have still : w.passed now = true := by
          simp only [Window.passed, decide_eq_true_eq] at passed ⊢
          omega
        simp [Option.filter_some, passed, still]

/-- From a time on two limiters have the same window for a key. -/
def Agree (key : String) (start : Nat) (l l' : Limiter) : Prop :=
  l.settings = l'.settings ∧ ∀ length now, start ≤ now →
    current l.windows key length now = current l'.windows key length now

theorem Agree.refl (key : String) (start : Nat) (l : Limiter) : Agree key start l l :=
  ⟨rfl, fun _ _ _ => rfl⟩

theorem Agree.mono (h : Agree key start l l') (later : start ≤ now) : Agree key now l l' :=
  ⟨h.1, fun length now' h' => h.2 length now' (Nat.le_trans later h')⟩

/-- The windows that a run falls in are the same. -/
theorem Agree.pruned (h : Agree key start l l') (later : start ≤ now) (length : Nat) :
    current (l.pruned key now) key length now = current (l'.pruned key now) key length now := by
  rw [current_pruned l key key length (Nat.le_refl now),
    current_pruned l' key key length (Nat.le_refl now), h.2 length now later]

/-- A run of the key is decided in the same way, and the limiters agree again. -/
theorem Agree.acquire (h : Agree key start l l') (later : start ≤ now) (type : TriggerType) :
    (l.acquire key type now).1 = (l'.acquire key type now).1 ∧
      Agree key now (l.acquire key type now).2 (l'.acquire key type now).2 := by
  have limits : l.limitFor type = l'.limitFor type := by rw [limitFor, limitFor, h.1]
  have windows := h.pruned later
  simp only [Limiter.acquire, limits, windows, true_and]
  refine ⟨h.1, fun length now' _ => ?_⟩
  simp only [current, KeyMap.get?_insert, if_true]

/-- A run of another key leaves the window of the key. -/
theorem Agree.acquire_other {other : String} (h : Agree key start l l') (later : start ≤ now)
    (ne : key ≠ other) (type : TriggerType) : Agree key now (l.acquire other type now).2 l' := by
  refine ⟨h.1, fun length now' h' => ?_⟩
  have kept := current_pruned l other key length h'
  simp only [Limiter.acquire, current, KeyMap.get?_insert, if_neg ne] at kept ⊢
  rw [kept]
  exact h.2 length now' (Nat.le_trans later h')

/-- Runs of other subjects make no difference to the window of a subject. -/
theorem Agree.attend {x : Subject} {visits : List Visit} (h : Agree x.key start l l')
    (chronological : visits.Pairwise (·.now ≤ ·.now)) (after : ∀ v ∈ visits, start ≤ v.now)
    (before : ∀ v ∈ visits, v.now ≤ now) (began : start ≤ now)
    (aligned : ∀ v ∈ visits, v.subject.Aligned x) :
    Agree x.key now (l.attend visits) (l'.attend (visits.filter (·.subject.Same x))) := by
  -- Each visit moves the time on, and one of the two limiters or both.
  induction visits generalizing l l' start with
  | nil => exact h.mono began
  | cons v visits ih =>
    obtain ⟨first, rest⟩ := List.pairwise_cons.1 chronological
    have hv := after v List.mem_cons_self
    have step : Agree x.key v.now (l.acquire v.subject.key v.subject.type v.now).2
        (if v.subject.Same x then (l'.acquire v.subject.key v.subject.type v.now).2 else l') := by
      have key := Subject.key_eq_iff (aligned v List.mem_cons_self)
      split
      · rename_i same
        rw [key.2 same]
        exact (h.acquire hv _).2
      · rename_i other
        exact h.acquire_other hv (fun he => other (key.1 he.symm)) _
    have ih := ih step rest first (fun u hu => before u (List.mem_cons_of_mem _ hu))
      (before v List.mem_cons_self) fun u hu => aligned u (List.mem_cons_of_mem _ hu)
    by_cases same : v.subject.Same x
    · rw [if_pos same] at ih
      rw [List.filter_cons_of_pos (by simpa using same)]
      exact ih
    · rw [if_neg same] at ih
      rw [List.filter_cons_of_neg (by simpa using same)]
      exact ih

/-- Whether a run is admitted follows from the runs of its own subject. -/
theorem decides_attend {visits : List Visit} {v : Visit}
    (chronological : (visits ++ [v]).Pairwise (·.now ≤ ·.now))
    (aligned : ∀ u ∈ visits, u.subject.Aligned v.subject) :
    (l.attend visits).decides v =
      (l.attend (visits.filter (·.subject.Same v.subject))).decides v := by
  obtain ⟨earlier, -, last⟩ := List.pairwise_append.1 chronological
  have agree := (Agree.refl v.subject.key 0 l).attend earlier (fun _ _ => Nat.zero_le _)
    (fun u hu => last u hu v (List.mem_singleton_self v)) (Nat.zero_le _) aligned
  exact (agree.acquire (Nat.le_refl _) v.subject.type).1

end Limiter

structure RunRequest where
  flow : Flow
  trigger : Trigger
  context : Context := {}

def RunRequest.subject (r : RunRequest) : Subject :=
  ⟨r.flow.id, r.trigger.type, Engine.selector r.trigger r.context⟩

namespace Engine

variable {σ ω : Type} {e : Engine σ ω} {f : Flow}

def attend (e : Engine σ ω) (runs : List RunRequest) (s : Session σ ω) : Session σ ω :=
  runs.foldl (fun s r => (e.execute r.flow r.trigger r.context s).2) s

def visits (e : Engine σ ω) : List RunRequest → Session σ ω → List Visit
  | [], _ => []
  | r :: runs, s =>
    ⟨r.subject, (e.now s).1⟩ :: visits e runs (e.execute r.flow r.trigger r.context s).2

theorem limiter_attend (runs : List RunRequest) (s : Session σ ω) :
    (e.attend runs s).limiter = s.limiter.attend (e.visits runs s) := by
  induction runs generalizing s with
  | nil => rfl
  | cons r runs ih =>
    calc (e.attend (r :: runs) s).limiter
        = (e.attend runs (e.execute r.flow r.trigger r.context s).2).limiter := rfl
      _ = (e.execute r.flow r.trigger r.context s).2.limiter.attend
            (e.visits runs (e.execute r.flow r.trigger r.context s).2) := ih _
      _ = s.limiter.attend (e.visits (r :: runs) s) := by
        rw [limiter_execute]
        rfl

theorem visits_concat (runs : List RunRequest) (r : RunRequest) (s : Session σ ω) :
    e.visits (runs ++ [r]) s = e.visits runs s ++ [⟨r.subject, (e.now (e.attend runs s)).1⟩] := by
  induction runs generalizing s with
  | nil => rfl
  | cons r' runs ih =>
    rw [List.cons_append, visits, ih, visits, List.cons_append]
    rfl

theorem subject_of_mem_visits {runs : List RunRequest} {s : Session σ ω} {v : Visit}
    (h : v ∈ e.visits runs s) : ∃ r ∈ runs, v.subject = r.subject := by
  induction runs generalizing s with
  | nil => cases h
  | cons r runs ih =>
    rcases List.mem_cons.1 h with rfl | h
    · exact ⟨r, List.mem_cons_self, rfl⟩
    · obtain ⟨r', hr', hv⟩ := ih h
      exact ⟨r', List.mem_cons_of_mem _ hr', hv⟩

/-- Runs whose flows and trigger types have as many colons as those of a run share its key only if
they are of the same flow, trigger type and selector. Only these count against it: it is admitted
after all runs just as it were after those of its own subject. Time does not go back. -/
theorem subjects_kept_apart (e : Engine σ ω) (runs : List RunRequest) (mine : RunRequest)
    (s : Session σ ω) (aligned : ∀ r ∈ runs, r.subject.Aligned mine.subject)
    (chronological : (e.visits (runs ++ [mine]) s).Pairwise (·.now ≤ ·.now)) :
    (∀ r ∈ runs, r.subject.key = mine.subject.key ↔ r.subject.Same mine.subject) ∧
      (e.enter mine.flow mine.trigger mine.context (e.attend runs s)).1 =
        (s.limiter.attend ((e.visits runs s).filter (·.subject.Same mine.subject))).decides
          ⟨mine.subject, (e.now (e.attend runs s)).1⟩ := by
  refine ⟨fun r hr => Subject.key_eq_iff (aligned r hr), ?_⟩
  rw [visits_concat] at chronological
  have admitted : (e.enter mine.flow mine.trigger mine.context (e.attend runs s)).1 =
      (e.attend runs s).limiter.decides ⟨mine.subject, (e.now (e.attend runs s)).1⟩ := rfl
  rw [admitted, limiter_attend]
  refine Limiter.decides_attend chronological fun v hv => ?_
  obtain ⟨r, hr, same⟩ := subject_of_mem_visits hv
  rw [same]
  exact aligned r hr

end Engine

namespace Flow

def onTarget (target : String) : Trigger :=
  { type := .onClick, targetId := some target, startNodeId := "show" }

def showing (id target : String) : Flow :=
  { id := id, triggers := [onTarget target],
    nodes :=
      [{ id := "show", type := "ShowToast", params := .ofList [("message", .text "hello")] }] }

end Flow

def RunRequest.click (flowId target : String) : RunRequest :=
  ⟨.showing flowId target, Flow.onTarget target, {}⟩

def Session.strict : Session Unit Unit :=
  { Session.fresh with limiter := { settings := { ui := ⟨1, 10⟩ } } }

namespace Engine

/-- A click in another flow does not use up the only one that is admitted. -/
theorem clicks_kept_apart :
    ((RunRequest.click "b" "x").subject.key = (RunRequest.click "a" "x").subject.key ↔
        (RunRequest.click "b" "x").subject.Same (RunRequest.click "a" "x").subject) ∧
      (plain.enter (.showing "a" "x") (Flow.onTarget "x") {}
        (plain.attend [.click "b" "x"] .strict)).1 = true := by
  have aligned : ∀ r ∈ [RunRequest.click "b" "x"],
      r.subject.Aligned (RunRequest.click "a" "x").subject := by
    intro r hr
    cases List.mem_singleton.1 hr
    exact ⟨rfl, rfl⟩
  obtain ⟨keys, admitted⟩ := subjects_kept_apart plain [.click "b" "x"] (.click "a" "x") .strict
    aligned (by decide +kernel)
  exact ⟨keys _ (List.mem_singleton_self _), admitted.trans (by decide +kernel)⟩

/-- Two clicks of different flows and targets share a key, so that the first uses up the only one
that is admitted of the second flow. -/
theorem clicks_share_key :
    (RunRequest.click "a" "OnClick:x").subject.key =
        (RunRequest.click "a:OnClick" "x").subject.key ∧
      ¬ (RunRequest.click "a" "OnClick:x").subject.Same (RunRequest.click "a:OnClick" "x").subject ∧
      (plain.execute (.showing "a:OnClick" "x") (Flow.onTarget "x") {} .strict).1.error = none ∧
      (plain.execute (.showing "a:OnClick" "x") (Flow.onTarget "x") {}
        (plain.attend [.click "a" "OnClick:x"] .strict)).1.error = some "rate_limited" := by
  decide +kernel

end Engine
end PluginFlow
