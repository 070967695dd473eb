import Mathlib.Data.List.Induction
import PluginFlow.Admission

/-!
Admission key by key. What a limiter decides for a key depends on the earlier runs of that key
alone: each key behaves as one window that is opened by its own runs, and neither the runs of other
keys nor the windows that are forgotten show.
-/

namespace PluginFlow

structure FixedWindow where
  opened : Nat
  admitted : Nat
  deriving DecidableEq

namespace FixedWindow

/-- The window that a run falls in. A run opens one when there is none or when it comes no earlier
than the end of the last one. -/
def entered (length now : Nat) : Option FixedWindow → FixedWindow
  | none => ⟨now, 0⟩
  | some w => if w.opened + length ≤ now then ⟨now, 0⟩ else w

/-- Whether a run is admitted: the window it falls in has admitted fewer runs than the limit. -/
def admits (limit length : Nat) (w : Option FixedWindow) (now : Nat) : Bool :=
  (entered length now w).admitted < limit

def next (limit length : Nat) (w : Option FixedWindow) (now : Nat) : Option FixedWindow :=
  let here := entered length now w
  some (if here.admitted < limit then { here with admitted := here.admitted + 1 } else here)

def after (limit length : Nat) (times : List Nat) : Option FixedWindow :=
  times.foldl (next limit length) none

variable {limit length : Nat}

theorem after_concat (times : List Nat) (now : Nat) :
    after limit length (times ++ [now]) = next limit length (after limit length times) now := by
  rw [after, List.foldl_append, ← after]
  rfl

/-- A rejected run leaves its window as it was, unless nothing is ever admitted. -/
theorem next_of_not_admits {w : Option FixedWindow} {now : Nat} (positive : 0 < limit)
    (full : admits limit length w now = false) : next limit length w now = w := by
  have hf : ¬ (entered length now w).admitted < limit := by simpa [admits] using full
  cases w with
  | none => exact absurd positive hf
  | some w =>
    simp only [next, hf, if_false]
    simp only [entered] at hf ⊢
    split at hf
    · exact absurd positive hf
    · rw [if_neg ‹_›]

end FixedWindow

structure Arrival where
  key : String
  type : TriggerType
  now : Nat
  deriving DecidableEq

namespace Limiter

def take (s : List Arrival × Limiter) (a : Arrival) : List Arrival × Limiter :=
  let r := s.2.acquire a.key a.type a.now
  (if r.1 then s.1 ++ [a] else s.1, r.2)

def serve (settings : AdmissionSettings) (runs : List Arrival) : List Arrival × Limiter :=
  runs.foldl take ([], { settings := settings })

def admits (settings : AdmissionSettings) (earlier : List Arrival) (a : Arrival) : Bool :=
  ((serve settings earlier).2.acquire a.key a.type a.now).1

variable {settings : AdmissionSettings}

theorem serve_concat (runs : List Arrival) (a : Arrival) :
    serve settings (runs ++ [a]) = take (serve settings runs) a := by
  rw [serve, List.foldl_append, ← serve]
  rfl

theorem settings_serve (runs : List Arrival) : (serve settings runs).2.settings = settings := by
  induction runs using List.reverseRecOn with
  | nil => rfl
  | append_singleton runs a ih => rw [serve_concat, take, acquire, ih]

def times (key : String) (runs : List Arrival) : List Nat :=
  (runs.filter (·.key = key)).map (·.now)

theorem times_concat_of_eq {key : String} {a : Arrival} (runs : List Arrival) (h : a.key = key) :
    times key (runs ++ [a]) = times key runs ++ [a.now] := by
  simp [times, List.filter_append, h]

theorem times_concat_of_ne {key : String} {a : Arrival} (runs : List Arrival) (h : a.key ≠ key) :
    times key (runs ++ [a]) = times key runs := by
  simp [times, List.filter_append, h]

/-- What a limiter remembers of a key stands for a window at a time and ever after. A window that
has passed may be forgotten. -/
def Stands (length now : Nat) : Option Window → Option FixedWindow → Prop
  | some w, some r =>
    w.started = r.opened ∧ w.length = length ∧ w.count = r.admitted ∧ r.opened ≤ now
  | none, some r => r.opened + length ≤ now
  | none, none => True
  | some _, none => False

variable {length now now' : Nat}

theorem Stands.mono {w : Option Window} {r : Option FixedWindow} (h : Stands length now w r)
    (later : now ≤ now') : Stands length now' w r := by
  cases w with
  | none =>
    cases r with
    | none => trivial
    | some r => exact Nat.le_trans h later
  | some w =>
    cases r with
    | none => exact h
    | some r =>
      obtain ⟨hs, hl, hc, ho⟩ := h
      exact ⟨hs, hl, hc, Nat.le_trans ho later⟩

theorem Stands.opened_le {w : Option Window} {r : FixedWindow} (h : Stands length now w (some r)) :
    r.opened ≤ now := by
  cases w with
  | none => exact Nat.le_trans (Nat.le_add_right _ _) h
  | some w => exact h.2.2.2

/-- Forgetting a window that has passed makes no difference. -/
theorem Stands.forget {w : Window} {r : Option FixedWindow} (h : Stands length now (some w) r)
    (passed : w.passed now = true) : Stands length now none r := by
  cases r with
  | none => trivial
  | some r =>
    obtain ⟨hs, hl, -, ho⟩ := h
    have hp : w.length ≤ now - w.started := of_decide_eq_true passed
    show r.opened + length ≤ now
    omega

/-- A limiter finds a key in the window that its runs have opened. -/
theorem Stands.current {windows : KeyMap Window} {key : String} {r : Option FixedWindow}
    (h : Stands length now (windows.get? key) r) :
    current windows key length now =
      ⟨(FixedWindow.entered length now r).opened, length,
        (FixedWindow.entered length now r).admitted⟩ := by
  unfold Limiter.current
  cases hw : windows.get? key with
  | none =>
    rw [hw] at h
    cases r with
    | none => rfl
    | some r =>
      have hp : r.opened + length ≤ now := h
      simp only [FixedWindow.entered, if_pos hp]
  | some w =>
    rw [hw] at h
    cases r with
    | none => exact absurd h id
    | some r =>
      obtain ⟨hs, hl, hc, ho⟩ := h
      have hp : w.passed now = true ↔ r.opened + length ≤ now := by
        rw [Window.passed, decide_eq_true_iff]
        omega
      by_cases hn : r.opened + length ≤ now
      · simp only [FixedWindow.entered, if_pos hn, if_pos (hp.2 hn)]
      · simp only [FixedWindow.entered, if_neg hn, if_neg (mt hp.1 hn)]
        rw [← hs, ← hl, ← hc]

/-- Pruning forgets windows that have passed and no others. -/
theorem get?_pruned (l : Limiter) (asked key : String) (now : Nat) :
    (l.pruned asked now).get? key = l.windows.get? key ∨
      (l.pruned asked now).get? key = (l.windows.get? key).filter fun w => !w.passed now := by
  unfold pruned
  split
  · exact .inr (KeyMap.lookup_filter l.windows.ordered key)
  · exact .inl rfl

theorem Stands.pruned {l : Limiter} {key : String} {r : Option FixedWindow}
    (h : Stands length now (l.windows.get? key) r) (asked : String) :
    Stands length now ((l.pruned asked now).get? key) r := by
  rcases l.get?_pruned asked key now with hg | hg
  · rwa [hg]
  · rw [hg]
    cases hw : l.windows.get? key with
    | none => rwa [hw] at h
    | some w =>
      rw [hw] at h
      cases hp : w.passed now with
      | true => simpa [Option.filter_some, hp] using h.forget hp
      | false => simpa [Option.filter_some, hp] using h

/-- Where a limiter stands for a window of a key, it decides by that window and stands for it
again. -/
theorem Stands.acquire {l : Limiter} {key : String} {type : TriggerType} {r : Option FixedWindow}
    (h : Stands (1000 * (l.limitFor type).windowSecs) now (l.windows.get? key) r) :
    (l.acquire key type now).1 =
        FixedWindow.admits (l.limitFor type).limit (1000 * (l.limitFor type).windowSecs) r now ∧
      Stands (1000 * (l.limitFor type).windowSecs) now
        ((l.acquire key type now).2.windows.get? key)
        (FixedWindow.next (l.limitFor type).limit (1000 * (l.limitFor type).windowSecs) r now) := by
  have hc := (h.pruned key).current
  have opened : (FixedWindow.entered (1000 * (l.limitFor type).windowSecs) now r).opened ≤ now := by
    cases r with
    | none => exact Nat.le_refl now
    | some r =>
      simp only [FixedWindow.entered]
      split
      · exact Nat.le_refl now
      · exact h.opened_le
  simp only [Limiter.acquire, hc]
  refine ⟨rfl, ?_⟩
  simp only [KeyMap.get?_insert, if_true, FixedWindow.next]
  split
  · exact ⟨rfl, rfl, rfl, opened⟩
  · exact ⟨rfl, rfl, rfl, opened⟩

/-- A run of another key leaves what a limiter remembers of a key, or forgets a window that has
passed. -/
theorem Stands.acquire_other {l : Limiter} {key other : String} {type : TriggerType}
    {r : Option FixedWindow} (h : Stands length now (l.windows.get? key) r) (ne : key ≠ other) :
    Stands length now ((l.acquire other type now).2.windows.get? key) r := by
  simp only [Limiter.acquire, KeyMap.get?_insert, if_neg ne]
  exact h.pruned other

/-- After runs in the order of their times a limiter stands for the window that the runs of a key
have opened, if these are all of one class. -/
theorem stands_serve {limit : WindowLimit} {key : String} {runs : List Arrival} {now : Nat}
    (chronological : runs.Pairwise (·.now ≤ ·.now)) (past : ∀ b ∈ runs, b.now ≤ now)
    (oneClass : ∀ b ∈ runs, b.key = key → settings.limitFor b.type = limit) :
    Stands (1000 * limit.windowSecs) now ((serve settings runs).2.windows.get? key)
      (FixedWindow.after limit.limit (1000 * limit.windowSecs) (times key runs)) := by
  -- The run that is served last is where the windows of before and after meet, so the induction is
  -- on the end of the list.
  induction runs using List.reverseRecOn generalizing now with
  | nil => trivial
  | append_singleton runs a ih =>
    obtain ⟨before, -, last⟩ := List.pairwise_append.1 chronological
    have ih : Stands (1000 * limit.windowSecs) a.now ((serve settings runs).2.windows.get? key)
        (FixedWindow.after limit.limit (1000 * limit.windowSecs) (times key runs)) :=
      ih before (fun b hb => last b hb a (List.mem_singleton_self a))
        fun b hb => oneClass b (List.mem_append_left _ hb)
    have ha : a ∈ runs ++ [a] := List.mem_append_right _ (List.mem_singleton_self a)
    rw [serve_concat]
    refine Stands.mono ?_ (past a ha)
    by_cases hk : a.key = key
    · have hl : (serve settings runs).2.limitFor a.type = limit := by
        rw [limitFor, settings_serve]
        exact oneClass a ha hk
      rw [times_concat_of_eq runs hk, FixedWindow.after_concat]
      subst hk hl
      exact ih.acquire.2
    · rw [times_concat_of_ne runs hk]
      exact ih.acquire_other (Ne.symm hk)

/-- A run is admitted by the window that the earlier runs of its key have opened. -/
theorem admits_eq {earlier : List Arrival} {a : Arrival}
    (chronological : (earlier ++ [a]).Pairwise (·.now ≤ ·.now))
    (oneClass : ∀ b ∈ earlier, b.key = a.key → settings.limitFor b.type = settings.limitFor a.type) :
    admits settings earlier a =
      FixedWindow.admits (settings.limitFor a.type).limit
        (1000 * (settings.limitFor a.type).windowSecs)
        (FixedWindow.after (settings.limitFor a.type).limit
          (1000 * (settings.limitFor a.type).windowSecs) (times a.key earlier)) a.now := by
  obtain ⟨before, -, last⟩ := List.pairwise_append.1 chronological
  have stands := stands_serve before (fun b hb => last b hb a (List.mem_singleton_self a)) oneClass
  have hl : (serve settings earlier).2.limitFor a.type = settings.limitFor a.type := by
    rw [limitFor, settings_serve]
  rw [← hl] at stands ⊢
  exact stands.acquire.1

theorem admitted_concat (runs : List Arrival) (a : Arrival) :
    (serve settings (runs ++ [a])).1 =
      if admits settings runs a then (serve settings runs).1 ++ [a] else (serve settings runs).1 := by
  rw [serve_concat]
  rfl

theorem admitted_subset (runs : List Arrival) : (serve settings runs).1.Sublist runs := by
  induction runs using List.reverseRecOn with
  | nil => exact .slnil
  | append_singleton runs a ih =>
    rw [admitted_concat]
    split
    · exact ih.append (.refl [a])
    · exact ih.trans (List.sublist_append_left runs [a])

/-- The rejected runs of a key leave no mark on its window, unless all of them are rejected. -/
theorem after_admitted {limit : WindowLimit} {key : String} {runs : List Arrival}
    (chronological : runs.Pairwise (·.now ≤ ·.now))
    (oneClass : ∀ b ∈ runs, b.key = key → settings.limitFor b.type = limit)
    (positive : 0 < limit.limit) :
    FixedWindow.after limit.limit (1000 * limit.windowSecs)
        (times key (serve settings runs).1) =
      FixedWindow.after limit.limit (1000 * limit.windowSecs) (times key runs) := by
  induction runs using List.reverseRecOn with
  | nil => rfl
  | append_singleton runs a ih =>
    have ih := ih (List.pairwise_append.1 chronological).1
      fun b hb => oneClass b (List.mem_append_left _ hb)
    rw [admitted_concat]
    by_cases hk : a.key = key
    · have hl := oneClass a (List.mem_append_right _ (List.mem_singleton_self a)) hk
      have decided := admits_eq chronological fun b hb hb' =>
        (oneClass b (List.mem_append_left _ hb) (hb'.trans hk)).trans hl.symm
      rw [hl, hk] at decided
      rw [times_concat_of_eq runs hk, FixedWindow.after_concat]
      split
      · rw [times_concat_of_eq _ hk, FixedWindow.after_concat, ih]
      · rename_i rejected
        rw [ih, FixedWindow.next_of_not_admits positive]
        rw [← decided]
        exact Bool.not_eq_true _ ▸ rejected
    · rw [times_concat_of_ne runs hk, ← ih]
      split
      · exact congrArg _ (times_concat_of_ne _ hk)
      · rfl

theorem times_filter (key : String) (runs : List Arrival) :
    times key (runs.filter (·.key = key)) = times key runs := by
  simp [times, List.filter_filter]

/-- Whether a run is admitted follows from the earlier runs of its key alone: the window that they
have opened decides, and the runs of other keys and those that were rejected could have stayed
away. Runs come in the order of their times, and those of the key are of one class. -/
theorem admits_by_key (settings : AdmissionSettings) (earlier : List Arrival) (a : Arrival)
    (chronological : (earlier ++ [a]).Pairwise (·.now ≤ ·.now))
    (oneClass : ∀ b ∈ earlier, b.key = a.key → settings.limitFor b.type = settings.limitFor a.type) :
    admits settings earlier a =
        FixedWindow.admits (settings.limitFor a.type).limit
          (1000 * (settings.limitFor a.type).windowSecs)
          (FixedWindow.after (settings.limitFor a.type).limit
            (1000 * (settings.limitFor a.type).windowSecs) (times a.key earlier)) a.now ∧
      admits settings ((serve settings earlier).1.filter (·.key = a.key)) a =
        admits settings earlier a := by
  have decided := admits_eq chronological oneClass
  refine ⟨decided, ?_⟩
  have kept : ((serve settings earlier).1.filter (·.key = a.key)).Sublist earlier :=
    List.filter_sublist.trans (admitted_subset earlier)
  rw [decided, admits_eq (chronological.sublist (kept.append (.refl [a])))
    fun b hb => oneClass b (kept.subset hb), times_filter]
  rcases Nat.eq_zero_or_pos (settings.limitFor a.type).limit with none | positive
  · simp [FixedWindow.admits, none]
  · rw [after_admitted (List.pairwise_append.1 chronological).1 oneClass positive]

/-- Seven timers at once, of which one is too many, and a click. -/
def rush : List Arrival :=
  List.replicate 7 ⟨"f:OnTimer:", .onTimer, 5⟩ ++ [⟨"f:OnClick:b", .onClick, 10⟩]

/-- The minute of the first timer is over after sixty seconds, not before. -/
theorem admits_after_rush :
    admits {} rush ⟨"f:OnTimer:", .onTimer, 60004⟩ = false ∧
      admits {} rush ⟨"f:OnTimer:", .onTimer, 60005⟩ = true := by
  constructor
  · rw [(admits_by_key {} rush ⟨"f:OnTimer:", .onTimer, 60004⟩ (by decide) (by decide)).1]
    decide
  · rw [(admits_by_key {} rush ⟨"f:OnTimer:", .onTimer, 60005⟩ (by decide) (by decide)).1]
    decide

end Limiter
end PluginFlow
