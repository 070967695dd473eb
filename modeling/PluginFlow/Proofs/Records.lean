import Mathlib.Data.List.DropRight
import PluginFlow.Proofs.Atomicity
import PluginFlow.Proofs.Bookkeeping

/-!
The history over the life of an engine. It holds the records of the last runs, oldest first, as many
as it has room for, whatever these runs came to.
-/

namespace PluginFlow

namespace History

/-- Holds the last of some records, as many as there is room for. -/
structure Keeps (h : History) (records : List RunRecord) : Prop where
  room : 0 < h.capacity
  last : h.records = records.rtake h.capacity

theorem keeps_ofCapacity (capacity : Nat) : (ofCapacity capacity).Keeps [] where
  room := Nat.lt_of_lt_of_le Nat.one_pos (Nat.le_max_right _ _)
  last := (List.rtake_nil _).symm

theorem rtake_rtake {α : Type} (xs : List α) (m n : Nat) :
    (xs.rtake m).rtake n = xs.rtake (min n m) := by
  rw [List.rtake_eq_reverse_take_reverse, List.rtake_eq_reverse_take_reverse,
    List.reverse_reverse, List.take_take, ← List.rtake_eq_reverse_take_reverse]

/-- A full history makes room by giving up its oldest record. -/
theorem Keeps.push {h : History} {records : List RunRecord} (kept : h.Keeps records)
    (r : RunRecord) : (h.push r).Keeps (records ++ [r]) where
  room := kept.room
  last := by
    obtain ⟨n, hn⟩ := Nat.exists_eq_succ_of_ne_zero kept.room.ne'
    calc (h.push r).records
        = h.records.rtake n ++ [r] := by
          rw [History.push, List.rtake, hn, Nat.succ_eq_add_one, Nat.add_sub_add_right]
      _ = records.rtake n ++ [r] := by
          rw [kept.last, rtake_rtake, hn, Nat.min_eq_left (Nat.le_succ n)]
      _ = (records ++ [r]).rtake (h.push r).capacity := by
          rw [capacity_push, hn, List.rtake_concat_succ]

end History

namespace Engine

variable {σ ω : Type} {e : Engine σ ω} {s s' : Session σ ω} {results : List RunResult}

/-- The results of the runs of an engine since a session, in their order, and the session that has
come of it. Between runs the host may change what it likes, but it cannot reach the history. -/
inductive Lives (e : Engine σ ω) (s : Session σ ω) : List RunResult → Session σ ω → Prop
  | start : Lives e s [] s
  | run {results : List RunResult} {s' : Session σ ω} (earlier : Lives e s results s') (f : Flow)
      (trigger : Trigger) (c : Context) :
      Lives e s (results ++ [(e.execute f trigger c s').1]) (e.execute f trigger c s').2
  | aside {results : List RunResult} {s' s'' : Session σ ω} (earlier : Lives e s results s')
      (untouched : s''.history = s'.history) : Lives e s results s''

/-- What a session had kept before is followed by one record for each run. -/
theorem Lives.keeps {records : List RunRecord} (lives : e.Lives s results s')
    (kept : s.history.Keeps records) :
    s'.history.capacity = s.history.capacity ∧
      s'.history.Keeps (records ++ results.map RunResult.record) := by
  induction lives with
  | start => exact ⟨rfl, by simpa using kept⟩
  | run _ f trigger c ih =>
    rw [history_execute, List.map_append, ← List.append_assoc]
    exact ⟨ih.1, ih.2.push _⟩
  | aside _ untouched ih =>
    rw [untouched]
    exact ih

theorem history_of_start? {state : KeyMap Value} {world : σ} {journal : Journal ω}
    (started : e.start? state world journal = some s) :
    s.history = .ofCapacity e.settings.historyCapacity := by
  obtain ⟨h, hh, rfl⟩ := Option.map_eq_some_iff.1 started
  unfold History.ofCapacity? at hh
  split at hh
  · exact (Option.some.inj hh).symm
  · cases hh

/-- The history of an engine holds the records of what its last runs have returned, oldest first
and one for each run: as many runs as the settings say, but always the last one. Runs that were
not admitted, were broken off or failed in a node are no exception. -/
theorem history_holds_last_runs (e : Engine σ ω) {state : KeyMap Value} {world : σ}
    {journal : Journal ω} (started : e.start? state world journal = some s)
    (lives : e.Lives s results s') :
    s'.history.records =
      (results.map RunResult.record).rtake (max 1 e.settings.historyCapacity) := by
  have history := history_of_start? started
  have empty : s.history.Keeps [] := history ▸ History.keeps_ofCapacity _
  obtain ⟨room, kept⟩ := lives.keeps empty
  rw [kept.last, room, history, List.nil_append, History.ofCapacity, Nat.max_comm]

def forgetful : Engine Unit Unit :=
  { breaking with settings := { historyCapacity := 2, rateLimits := { ui := ⟨2, 10⟩ } } }

def forgetfulStart : Session Unit Unit :=
  { Session.fresh with
    limiter := { settings := forgetful.settings.rateLimits }, history := .ofCapacity 2 }

def depart (s : Session Unit Unit) : RunResult × Session Unit Unit :=
  forgetful.execute Flow.departing Flow.onDepart {} s

/-- Of three departures two fail and the third is turned away. The first one is forgotten. -/
theorem forgetful_holds_last_departures :
    let first := depart forgetfulStart
    let second := depart first.2
    let third := depart second.2
    third.2.history.records = [second.1.record, third.1.record] ∧
      [first, second, third].map (·.1.error) =
        [some "node_failed", some "node_failed", some "rate_limited"] := by
  intro first second third
  have started : forgetful.start? .empty () ⟨(), []⟩ = some forgetfulStart := by rfl
  have lives : forgetful.Lives forgetfulStart [first.1, second.1, third.1] third.2 :=
    .run (.run (.run .start _ _ _) _ _ _) _ _ _
  exact ⟨history_holds_last_runs forgetful started lives, by decide +kernel⟩

end Engine
end PluginFlow
