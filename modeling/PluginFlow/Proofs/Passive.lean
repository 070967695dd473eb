import Mathlib.Data.List.Forall2
import PluginFlow.Proofs.Subjects
import PluginFlow.Proofs.Trail

/-!
Watching runs does not change them. Engines that differ in the sink of their events, in tracing and
in how values are cut come to the same results, states, histories and calls on hosts that answer
alike. Only how long a run took may differ.
-/

namespace PluginFlow

/-! ### Durations left out -/

def RunResult.untimed (r : RunResult) : RunResult := { r with durationMs := 0 }

def RunRecord.untimed (r : RunRecord) : RunRecord := { r with durationMs := 0 }

def History.untimed (h : History) : History := { h with records := h.records.map RunRecord.untimed }

theorem History.untimed_push (h : History) (r : RunRecord) :
    (h.push r).untimed = h.untimed.push r.untimed := by
  simp only [push, untimed, List.map_append, List.map_drop, List.map_cons, List.map_nil,
    List.length_map]

def Audit.Event.untimed (ev : Audit.Event) : Audit.Event :=
  match ev.details with
  | .run steps _ error => { ev with details := .run steps 0 error }
  | _ => ev

/-! ### Plans of the same node -/

/-- Settings that differ at most in whether nodes are traced and in how values are cut. -/
def Settings.Alike (s s' : Settings) : Prop :=
  s' = { s with traceNodes := s'.traceNodes, redaction := s'.redaction }

/-- Outcomes that differ at most in their notes, and in none if the same is to be shown. -/
structure Outcome.Alike (shown : Prop) (o o' : Outcome) : Prop where
  writes : o.writes = o'.writes
  items : o.items = o'.items
  next : o.next = o'.next
  notes : shown → o.notes = o'.notes

/-- Plans that fail alike, or make the same call and leave like outcomes whatever the answer. -/
inductive Plan.Alike (shown : Prop) : Plan → Plan → Prop
  | fail (f : NodeFault) : Alike shown (.fail f) (.fail f)
  | done {o o' : Outcome} (left : o.Alike shown o') : Alike shown (.done o) (.done o')
  | ask {c : Call} {resume resume' : c.Answer → Outcome}
      (left : ∀ a, (resume a).Alike shown (resume' a)) :
      Alike shown (.ask c resume) (.ask c resume')

theorem Outcome.Alike.refl (shown : Prop) (o : Outcome) : o.Alike shown o :=
  ⟨rfl, rfl, rfl, fun _ => rfl⟩

theorem Plan.Alike.refl (shown : Prop) (p : Plan) : p.Alike shown p := by
  cases p with
  | fail f => exact .fail f
  | done o => exact .done (.refl shown o)
  | ask c resume => exact .ask fun a => .refl shown (resume a)

namespace Turn

variable {t : Turn} {settings : Settings} {shown : Prop}

def withSettings (t : Turn) (settings : Settings) : Turn := { t with settings := settings }

@[simp] theorem integerParam?_withSettings (key : String) :
    (t.withSettings settings).integerParam? key = t.integerParam? key := rfl

@[simp] theorem filledParam_withSettings (key : String) :
    (t.withSettings settings).filledParam key = t.filledParam key := rfl

theorem network_withSettings (alike : t.settings.Alike settings) :
    (t.withSettings settings).settings.network = t.settings.network := by
  rw [withSettings, alike]

/-- Of a refusal, settings only cut the destination. -/
theorem refusal_alike (same : shown → t.settings = settings) (message destination : String)
    (v : Net.Violation) (writes : List (String × Value)) :
    (t.outcome (t.refusal message destination v) writes).Alike shown
      (t.outcome ((t.withSettings settings).refusal message destination v) writes) := by
  refine ⟨rfl, rfl, rfl, fun h => ?_⟩
  cases same h
  rfl

theorem curl_alike (alike : t.settings.Alike settings) (same : shown → t.settings = settings) :
    t.curl.Alike shown (t.withSettings settings).curl := by
  unfold curl
  simp only [network_withSettings alike, integerParam?_withSettings, filledParam_withSettings]
  cases t.settings.network.timeout? (t.integerParam? "timeoutMs") with
  | none => exact .fail _
  | some timeout =>
    cases t.settings.network.maxBytes? (t.integerParam? "maxBytes") with
    | none => exact .fail _
    | some maxBytes =>
      cases Net.checkUrl (t.filledParam "url") with
      | error v => exact .done (refusal_alike same _ _ v _)
      | ok u => exact .refl shown _

theorem ping_alike (alike : t.settings.Alike settings) (same : shown → t.settings = settings) :
    t.ping.Alike shown (t.withSettings settings).ping := by
  have port : (t.withSettings settings).pingPort = t.pingPort := rfl
  unfold ping
  simp only [network_withSettings alike, integerParam?_withSettings, filledParam_withSettings, port]
  cases t.settings.network.timeout? (some ((t.integerParam? "timeoutMs").getD 2000)) with
  | none => exact .fail _
  | some timeout =>
    cases Net.checkHostPort (t.filledParam "host") t.pingPort with
    | error v => exact .done (refusal_alike same _ _ v _)
    | ok _ => exact .refl shown _

/-- What a node does under settings differs at most in how its notes are cut. -/
theorem plan_alike (alike : t.settings.Alike settings) (same : shown → t.settings = settings) :
    t.plan.Alike shown (t.withSettings settings).plan := by
  have type : (t.withSettings settings).node.type = t.node.type := rfl
  unfold plan
  rw [type]
  cases NodeKind.ofName? t.node.type with
  | none => exact .refl shown _
  | some k =>
    cases k with
    | curl => exact curl_alike alike same
    | ping => exact ping_alike alike same
    | _ => exact .refl shown _

end Turn

/-! ### Engines on hosts that answer alike -/

/-- Hosts that answer alike from worlds that stand in one relation while a run waits for admission
and in another while it is under way. The clock agrees on when runs begin, not on when they end. -/
structure Platform.Alike {σ σ' : Type} (idle busy : σ → σ' → Prop) (p : Platform σ)
    (p' : Platform σ') : Prop where
  begins {w : σ} {w' : σ'} (h : idle w w') :
    (p.clock w).1 = (p'.clock w').1 ∧ busy (p.clock w).2 (p'.clock w').2
  answers {w : σ} {w' : σ'} (h : busy w w') (c : Call) :
    (p.respond c w).answer = (p'.respond c w').answer ∧
      busy (p.respond c w).world (p'.respond c w').world
  ends {w : σ} {w' : σ'} (h : busy w w') : idle (p.clock w).2 (p'.clock w').2

variable {σ σ' ω ω' : Type} {idle busy worlds : σ → σ' → Prop} {shown : Prop}

structure Engine.Alike (idle busy : σ → σ' → Prop) (e : Engine σ ω) (e' : Engine σ' ω') : Prop where
  registry : e.registry = e'.registry
  assets : e.assets = e'.assets
  settings : e.settings.Alike e'.settings
  platform : e.platform.Alike idle busy e'.platform

/-- Sessions that differ at most in times, in what was told and in what was recorded; if the same
is to be shown, the same was recorded. -/
structure Session.Alike (shown : Prop) (worlds : σ → σ' → Prop) (s : Session σ ω)
    (s' : Session σ' ω') : Prop where
  state : s.state = s'.state
  limiter : s.limiter = s'.limiter
  history : s.history.untimed = s'.history.untimed
  world : worlds s.world s'.world
  calls : s.journal.calls = s'.journal.calls
  events : shown →
    s.journal.events.map Audit.Event.untimed = s'.journal.events.map Audit.Event.untimed

/-- The journals of like sessions may be exchanged for others with the same calls and events. -/
theorem Session.Alike.withJournal {s : Session σ ω} {s' : Session σ' ω'}
    (h : s.Alike shown worlds s') {j : Journal ω} {j' : Journal ω'} (calls : j.calls = j'.calls)
    (events : shown → j.events.map Audit.Event.untimed = j'.events.map Audit.Event.untimed) :
    Session.Alike shown worlds { s with journal := j } { s' with journal := j' } :=
  ⟨h.state, h.limiter, h.history, h.world, calls, events⟩

structure Walked.Alike (shown : Prop) (worlds : σ → σ' → Prop) (w : Walked σ ω)
    (w' : Walked σ' ω') : Prop where
  fault : w.fault = w'.fault
  steps : w.steps = w'.steps
  context : w.context = w'.context
  session : w.session.Alike shown worlds w'.session

namespace Engine

variable {e : Engine σ ω} {e' : Engine σ' ω'} {s : Session σ ω} {s' : Session σ' ω'}

theorem tell_alike (h : s.Alike shown worlds s') (l l' : Log) :
    (tell s l).Alike shown worlds (tell s' l') := by
  refine h.withJournal ?_ fun given => ?_
  · rw [Journal.calls_tell, Journal.calls_tell, h.calls]
  · rw [Journal.events_tell, Journal.events_tell, h.events given]

theorem record_alike (h : s.Alike shown worlds s') {ev ev' : Audit.Event}
    (same : shown → ev.untimed = ev'.untimed) :
    (e.record s ev).Alike shown worlds (e'.record s' ev') := by
  refine h.withJournal ?_ fun given => ?_
  · rw [Journal.calls_record, Journal.calls_record, h.calls]
  · rw [Journal.events_record, Journal.events_record, List.map_append, List.map_append,
      h.events given]
    exact congrArg (_ ++ [·]) (same given)

theorem settle_alike {o o' : Outcome} (left : o.Alike shown o') (h : s.Alike shown worlds s') :
    (e.settle o s).Alike shown worlds (e'.settle o' s') := by
  obtain ⟨j, hj⟩ := e.exists_journal_foldl_note o.notes s
  obtain ⟨j', hj'⟩ := e'.exists_journal_foldl_note o'.notes s'
  have calls := h.calls
  rw [← e.calls_settle o s, ← e'.calls_settle o' s'] at calls
  have events (given : shown) : (e.settle o s).journal.events.map Audit.Event.untimed =
      (e'.settle o' s').journal.events.map Audit.Event.untimed := by
    rw [events_settle, events_settle, Outcome.events, Outcome.events, left.notes given,
      List.map_append, List.map_append, h.events given]
  simp only [settle, hj, hj'] at calls events ⊢
  exact { h.withJournal calls events with state := by rw [h.state, left.writes] }

section Steps

variable (like : e.Alike idle busy e')
include like

theorem ask_alike (h : s.Alike shown busy s') (c : Call) :
    ∃ a s₁ s₁', e.ask c s = (a, s₁) ∧ e'.ask c s' = (a, s₁') ∧ s₁.Alike shown busy s₁' := by
  obtain ⟨answer, world⟩ := like.platform.answers h.world c
  refine ⟨(e.ask c s).1, (e.ask c s).2, (e'.ask c s').2, rfl, Prod.ext answer.symm rfl,
    h.state, h.limiter, h.history, world, ?_, fun given => ?_⟩
  · rw [calls_ask, calls_ask, h.calls]
  · rw [events_ask, events_ask, h.events given]

theorem carryOut_alike {p p' : Plan} (plans : p.Alike shown p') (h : s.Alike shown busy s') :
    (∃ fault s₁ s₁', e.carryOut p s = (.error fault, s₁) ∧
      e'.carryOut p' s' = (.error fault, s₁') ∧ s₁.Alike shown busy s₁') ∨
    ∃ o o' s₁ s₁', e.carryOut p s = (.ok o, s₁) ∧ e'.carryOut p' s' = (.ok o', s₁') ∧
      o.Alike shown o' ∧ s₁.Alike shown busy s₁' := by
  cases plans with
  | fail f => exact .inl ⟨f, s, s', rfl, rfl, h⟩
  | done left => exact .inr ⟨_, _, s, s', rfl, rfl, left, h⟩
  | @ask c resume resume' left =>
    obtain ⟨a, s₁, s₁', asked, asked', h₁⟩ := ask_alike like h c
    cases a with
    | none =>
      refine .inl ⟨.broken, s₁, s₁', ?_, ?_, h₁⟩
      · rw [carryOut, asked]
      · rw [carryOut, asked']
    | some a =>
      refine .inr ⟨resume a, resume' a, s₁, s₁', ?_, ?_, left a, h₁⟩
      · rw [carryOut, asked]
      · rw [carryOut, asked']

theorem reportFailure_alike (h : s.Alike shown busy s') (f : Flow) (n : Node) (fault : RunFault) :
    (e.reportFailure f n fault s).Alike shown busy (e'.reportFailure f n fault s') := by
  have told := tell_alike h (nodeLog .error "Node failed" f n ("error", .text fault.message))
    (nodeLog .error "Node failed" f n ("error", .text fault.message))
  obtain ⟨a, s₁, s₁', asked, asked', h₁⟩ :=
    ask_alike like told (.dialog errorDialogTitle fault.message .long)
  simp only [reportFailure, asked, asked']
  cases a with
  | none => exact tell_alike h₁ _ _
  | some _ => exact h₁

theorem turn_eq (h : s.Alike shown worlds s') (f : Flow) (n : Node) (c : Context) :
    e'.turn f n s'.state c = (e.turn f n s.state c).withSettings e'.settings := by
  rw [turn, turn, Turn.withSettings, like.registry, like.assets, h.state]

theorem finish_alike {w : Walked σ ω} {w' : Walked σ' ω'} (h : w.Alike shown busy w') (f : Flow)
    (trigger : Trigger) (started : Nat) :
    (e.finish f trigger started w).1.untimed = (e'.finish f trigger started w').1.untimed ∧
      (e.finish f trigger started w).2.Alike shown idle (e'.finish f trigger started w').2 := by
  have results : (e.finish f trigger started w).1.untimed =
      (e'.finish f trigger started w').1.untimed := by
    simp only [finish, RunResult.untimed, h.fault, h.steps, h.context]
  refine ⟨results, ?_⟩
  -- The clock is read and the record kept before the end is recorded and told.
  have ended : Session.Alike shown idle
      { (e.now w.session).2 with
        history := (e.now w.session).2.history.push (e.finish f trigger started w).1.record }
      { (e'.now w'.session).2 with
        history := (e'.now w'.session).2.history.push (e'.finish f trigger started w').1.record } :=
    { state := h.session.state
      limiter := h.session.limiter
      history := by
        rw [History.untimed_push, History.untimed_push]
        exact congr (congrArg History.push h.session.history) (congrArg RunResult.record results)
      world := like.platform.ends h.session.world
      calls := h.session.calls
      events := h.session.events }
  have event : shown → (Audit.Event.runFinished (e.finish f trigger started w).1).untimed =
      (Audit.Event.runFinished (e'.finish f trigger started w').1).untimed :=
    fun _ => congrArg Audit.Event.runFinished results
  unfold finish
  by_cases away : w.fault = some .rateLimited
  · have away' := h.fault ▸ away
    simp only [if_pos away, if_pos away']
    exact tell_alike ended _ _
  · have away' := h.fault ▸ away
    simp only [if_neg away, if_neg away']
    exact tell_alike (record_alike ended event) _ _

theorem enter_alike (h : s.Alike shown idle s') (f : Flow) (trigger : Trigger) (c : Context) :
    (e.now s).1 = (e'.now s').1 ∧
      (e.enter f trigger c s).1 = (e'.enter f trigger c s').1 ∧
      (e.enter f trigger c s).2.Alike shown busy (e'.enter f trigger c s').2 := by
  obtain ⟨began, world⟩ := like.platform.begins h.world
  have limiter : s.limiter.acquire (runKey f trigger c) trigger.type (e.now s).1 =
      s'.limiter.acquire (runKey f trigger c) trigger.type (e'.now s').1 := by
    rw [h.limiter]
    exact congrArg _ began
  exact ⟨began, congrArg Prod.fst limiter, h.state, congrArg Prod.snd limiter, h.history, world,
    h.calls, h.events⟩

variable (same : shown → e.settings = e'.settings)
include same

omit like in
theorem trace_alike (h : s.Alike shown worlds s') (t : Turn) (c : Context) :
    (e.trace t c s).Alike shown worlds (e'.trace (t.withSettings e'.settings) c s') := by
  have event (given : shown) : e'.traceEvent (t.withSettings e'.settings) s'.state c =
      e.traceEvent t s.state c := by
    rw [traceEvent, traceEvent, redactor, redactor, same given, h.state]
    rfl
  obtain ⟨j, hj⟩ := e.exists_journal_trace t c s
  obtain ⟨j', hj'⟩ := e'.exists_journal_trace (t.withSettings e'.settings) c s'
  have calls := h.calls
  rw [← e.calls_trace t c s, ← e'.calls_trace (t.withSettings e'.settings) c s'] at calls
  have events (given : shown) : (e.trace t c s).journal.events.map Audit.Event.untimed =
      (e'.trace (t.withSettings e'.settings) c s').journal.events.map Audit.Event.untimed := by
    rw [events_trace, events_trace, event given, same given, List.map_append, List.map_append,
      h.events given]
  rw [hj, hj'] at calls events ⊢
  exact h.withJournal calls events

/-- A visit of a node comes to the same, and its next node and rows are the same. -/
theorem visit_alike (h : s.Alike shown busy s') (f : Flow) (n : Node) (c : Context) :
    ∃ r c₁ s₁ s₁', e.visit f n c s = (r, c₁, s₁) ∧ e'.visit f n c s' = (r, c₁, s₁') ∧
      s₁.Alike shown busy s₁' := by
  have turns := turn_eq like h f n c
  have plans : (e.turn f n s.state c).plan.Alike shown
      ((e.turn f n s.state c).withSettings e'.settings).plan :=
    Turn.plan_alike like.settings same
  rcases carryOut_alike like plans h with
    ⟨fault, s₁, s₁', done, done', h₁⟩ | ⟨o, o', s₁, s₁', done, done', left, h₁⟩
  · refine ⟨.error fault, c, _, _, ?_, ?_, trace_alike same h₁ (e.turn f n s.state c) c⟩
    · simp only [visit_eq, done]
    · simp only [visit_eq, turns, done']
  · have settled : (e.settle o s₁).Alike shown busy (e'.settle o' s₁') := settle_alike left h₁
    refine ⟨.ok (o.next.bind nonBlank), { c with items := o.items }, _, _, ?_, ?_,
      trace_alike same settled (e.turn f n s.state c) { c with items := o.items }⟩
    · simp only [visit_eq, done]
    · simp only [visit_eq, turns, done', left.next, left.items]

/-- Walks from like sessions come to like ends. -/
theorem walk_alike (h : s.Alike shown busy s') (f : Flow) (b k : Nat) (next : Option String)
    (c : Context) :
    (e.walk f b k next c s).Alike shown busy (e'.walk f b k next c s') := by
  -- Both walks spend the same budget, since they meet the same nodes and these lead the same way.
  induction b generalizing k next c s s' with
  | zero =>
    cases next with
    | none => exact ⟨rfl, rfl, rfl, h⟩
    | some id => exact ⟨rfl, rfl, rfl, h⟩
  | succ b ih =>
    cases next with
    | none => exact ⟨rfl, rfl, rfl, h⟩
    | some id =>
      rw [walk, walk]
      cases f.node? id with
      | none => exact ⟨rfl, rfl, rfl, h⟩
      | some n =>
        obtain ⟨r, c₁, s₁, s₁', seen, seen', h₁⟩ := visit_alike like same (tell_alike h
          (nodeLog .debug "Dispatching node" f n ("steps", .integer (k + 1)))
          (nodeLog .debug "Dispatching node" f n ("steps", .integer (k + 1)))) f n c
        simp only [seen, seen']
        cases r with
        | error fault => exact ⟨rfl, rfl, rfl, reportFailure_alike like h₁ f n _⟩
        | ok next => exact ih h₁ _ _ _

theorem execute_alike (h : s.Alike shown idle s') (f : Flow) (trigger : Trigger) (c : Context) :
    (e.execute f trigger c s).1.untimed = (e'.execute f trigger c s').1.untimed ∧
      (e.execute f trigger c s).2.Alike shown idle (e'.execute f trigger c s').2 := by
  obtain ⟨began, admitted, entered⟩ := enter_alike like h f trigger c
  have steps : e'.settings.maxStepsPerRun = e.settings.maxStepsPerRun := by rw [like.settings]
  rw [execute_eq_finish, execute_eq_finish, ← began, ← admitted, steps]
  split
  · exact finish_alike like (walk_alike like same entered f _ 0 _ c) f trigger _
  · refine finish_alike like ⟨rfl, rfl, rfl, ?_⟩ f trigger _
    exact record_alike (tell_alike entered _ _) fun _ => rfl

end Steps

def courses (e : Engine σ ω) : List RunRequest → Session σ ω → List (RunResult × Session σ ω)
  | [], _ => []
  | r :: runs, s =>
    let x := e.execute r.flow r.trigger r.context s
    x :: courses e runs x.2

theorem courses_alike (like : e.Alike idle busy e') (same : shown → e.settings = e'.settings)
    (h : s.Alike shown idle s') (runs : List RunRequest) :
    List.Forall₂ (fun x x' => x.1.untimed = x'.1.untimed ∧ x.2.Alike shown idle x'.2)
      (e.courses runs s) (e'.courses runs s') := by
  induction runs generalizing s s' with
  | nil => exact .nil
  | cons r runs ih =>
    have run := execute_alike like same h r.flow r.trigger r.context
    exact .cons run (ih run.2)

/-- Whatever sinks make of the events, whether nodes are traced and however values are cut: on
hosts that answer alike the same runs have the same results up to how long they took, and leave
the same states, the same records up to that, and the same calls. -/
theorem watched_alike (like : e.Alike idle busy e') (h : s.Alike False idle s')
    (runs : List RunRequest) :
    List.Forall₂ (fun x x' => x.1.untimed = x'.1.untimed ∧ x.2.state = x'.2.state ∧
        x.2.history.untimed = x'.2.history.untimed ∧ x.2.journal.calls = x'.2.journal.calls)
      (e.courses runs s) (e'.courses runs s') :=
  (courses_alike like False.elim h runs).imp fun _ _ run =>
    ⟨run.1, run.2.state, run.2.history, run.2.calls⟩

end Engine

/-! ### A watched engine and an unwatched one -/

def Platform.timed : Platform (Nat → Nat) where
  respond c times := ⟨some (refusal c), times, []⟩
  clock times := (times 0, fun n => times (n + 1))

/-- Sequences of times may differ in every second one. -/
theorem Platform.timed_alike :
    Platform.timed.Alike (fun times times' => ∀ n, times (2 * n) = times' (2 * n))
      (fun times times' => ∀ n, times (2 * n + 1) = times' (2 * n + 1)) .timed where
  begins h := ⟨h 0, fun n => h (n + 1)⟩
  answers h _ := ⟨rfl, h⟩
  ends h n := h n

def Audit.Sink.full : Audit.Sink Nat where
  record _ n := (.error (.unavailable "log"), n + 1)

namespace Engine

def watched : Engine (Nat → Nat) Unit :=
  { registry := .builtin, platform := .timed, sink := .dropping }

def unwatched : Engine (Nat → Nat) Nat :=
  { registry := .builtin, platform := .timed, sink := .full,
    settings := { traceNodes := false, redaction := ⟨0⟩ } }

def late (n : Nat) : Nat := n + 5 * (n % 2)

def session (times : Nat → Nat) (trail : ω) : Session (Nat → Nat) ω :=
  { state := .empty, limiter := { settings := {} }, history := default, world := times,
    journal := ⟨trail, []⟩ }

theorem clicks_watched_alike :
    List.Forall₂ (fun x x' => x.1.untimed = x'.1.untimed ∧ x.2.state = x'.2.state ∧
        x.2.history.untimed = x'.2.history.untimed ∧ x.2.journal.calls = x'.2.journal.calls)
      (watched.courses [.click "a" "x", .click "b" "x"] (session id ()))
      (unwatched.courses [.click "a" "x", .click "b" "x"] (session late 0)) := by
  have like : watched.Alike (fun times times' => ∀ n, times (2 * n) = times' (2 * n))
      (fun times times' => ∀ n, times (2 * n + 1) = times' (2 * n + 1)) unwatched :=
    ⟨rfl, rfl, rfl, Platform.timed_alike⟩
  refine watched_alike like ⟨rfl, rfl, rfl, fun n => ?_, rfl, False.elim⟩ _
  change 2 * n = 2 * n + 5 * (2 * n % 2)
  omega

end Engine
end PluginFlow
