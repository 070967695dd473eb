import PluginFlow.Admission
import PluginFlow.Node.Kind
import PluginFlow.Run.History

/-!
Runs of flows. A run walks from node to node until a node has no successor, the step budget is
spent, a node is missing or a node fails. It never fails itself: its result and the history say
how it ended, and what the nodes before the end have left stays.
-/

namespace PluginFlow

structure Engine (σ ω : Type) where
  registry : Registry
  assets : AssetTable := {}
  settings : Settings := {}
  platform : Platform σ
  sink : Audit.Sink ω

/-- What runs change: the state of the plugin, the windows of admission, the history, the platform
and the journal. -/
structure Session (σ ω : Type) where
  state : KeyMap Value
  limiter : Limiter
  history : History
  world : σ
  journal : Journal ω

namespace Engine

variable {σ ω : Type}

/-- A session before the first run. There is none when its history cannot be kept. -/
def start? (e : Engine σ ω) (state : KeyMap Value) (world : σ) (journal : Journal ω) :
    Option (Session σ ω) :=
  (History.ofCapacity? e.settings.historyCapacity).map fun history =>
    { state := state, limiter := { settings := e.settings.rateLimits }, history := history,
      world := world, journal := journal }

/-- What an engine shows of itself: how much it holds, never what. -/
def describe (e : Engine σ ω) (s : Session σ ω) : String :=
  "FlowEngine \x7b node_types: " ++ Number.intText e.registry.size ++
    ", state_keys: " ++ Number.intText s.state.size ++ ", assets: " ++ Number.intText e.assets.size ++
    ", history: " ++ Number.intText s.history.size ++ ", .. \x7d"

def redactor (e : Engine σ ω) : Redactor := .ofSettings e.settings.redaction

def turn (e : Engine σ ω) (f : Flow) (n : Node) (state : KeyMap Value) (c : Context) : Turn :=
  { registry := e.registry, assets := e.assets, settings := e.settings, flowId := f.id, node := n,
    state := state, context := c }

def record (e : Engine σ ω) (s : Session σ ω) (event : Audit.Event) : Session σ ω :=
  { s with journal := s.journal.record e.sink .engine event }

def tell (s : Session σ ω) (l : Log) : Session σ ω := { s with journal := s.journal.tell l }

/-- Makes a call; none when the platform breaks off. -/
def ask (e : Engine σ ω) (c : Call) (s : Session σ ω) : Option c.Answer × Session σ ω :=
  let r := e.platform.respond c s.world
  (r.answer, { s with world := r.world,
                      journal := (s.journal.add (.called c)).tellAll r.remarks })

def now (e : Engine σ ω) (s : Session σ ω) : Nat × Session σ ω :=
  let (time, world) := e.platform.clock s.world
  (time, { s with world := world })

def note (e : Engine σ ω) (s : Session σ ω) : Note → Session σ ω
  | .log l => tell s l
  | .event event => e.record s event

/-- Does the steps of a script one after the other: what it comes to, and the rows and the session
at its last step. -/
def perform {α : Type} (e : Engine σ ω) :
    Script α → Context → Session σ ω → Except NodeFault α × Context × Session σ ω
  | .done a, c, s => (.ok a, c, s)
  | .fail fault, c, s => (.error fault, c, s)
  | .note n rest, c, s => e.perform rest c (e.note s n)
  | .update key change rest, c, s =>
    e.perform rest c { s with state := s.state.insert key (change (s.state.get? key)) }
  | .rows change rest, c, s => e.perform rest { c with items := change c.items } s
  | .ask call rest, c, s =>
    match e.ask call s with
    | (some answer, s) => e.perform (rest answer) c s
    | (none, s) => (.error .broken, c, s)

def traceEvent (e : Engine σ ω) (t : Turn) (state : KeyMap Value) (c : Context) : Audit.Event :=
  let hidden := t.sensitiveKeys
  .nodeTrace t.flowId t.node.id t.node.type (e.redactor.diff t.state state hidden)
    (e.redactor.diff (t.firstItem?.getD .empty) (c.firstItem?.getD .empty) hidden)

def trace (e : Engine σ ω) (t : Turn) (c : Context) (s : Session σ ω) : Session σ ω :=
  if e.settings.traceNodes then e.record s (e.traceEvent t s.state c) else s

def visit (e : Engine σ ω) (f : Flow) (n : Node) (c : Context) (s : Session σ ω) :
    Except NodeFault (Option String) × Context × Session σ ω :=
  let t := e.turn f n s.state c
  let (result, c, s) := e.perform t.handle c s
  (result.map (·.bind nonBlank), c, e.trace t c s)

def errorDialogTitle : String := "Flow error"

def nodeLog (level : Level) (message : String) (f : Flow) (n : Node)
    (more : String × LogValue) : Log :=
  ⟨level, .engine, message,
    [("flow_id", .text f.id), ("node_id", .text n.id), ("node_type", .text n.type), more]⟩

/-- Tells about a failed node and shows a dialog; a dialog that breaks off is told about too. -/
def reportFailure (e : Engine σ ω) (f : Flow) (n : Node) (fault : RunFault) (s : Session σ ω) :
    Session σ ω :=
  let message := fault.message
  let s := tell s (nodeLog .error "Node failed" f n ("error", .text message))
  match e.ask (.dialog errorDialogTitle message .long) s with
  | (some _, s) => s
  | (none, s) =>
    tell s ⟨.warn, .engine, "Error dialog could not be shown", [("error", .text message)]⟩

end Engine

structure Walked (σ ω : Type) where
  fault : Option RunFault
  steps : Nat
  context : Context
  session : Session σ ω

namespace Engine

variable {σ ω : Type}

def walk (e : Engine σ ω) (f : Flow) : (budget steps : Nat) → Option String → Context →
    Session σ ω → Walked σ ω
  | _, steps, none, c, s => ⟨none, steps, c, s⟩
  | 0, steps, some _, c, s => ⟨some .stepLimitExceeded, steps, c, s⟩
  | budget + 1, steps, some id, c, s =>
    match f.node? id with
    | none => ⟨some (.missingNode id), steps + 1, c, s⟩
    | some n =>
      let s := tell s (nodeLog .debug "Dispatching node" f n ("steps", .integer (steps + 1)))
      match e.visit f n c s with
      | (.ok next, c, s) => walk e f budget (steps + 1) next c s
      | (.error fault, c, s) =>
        ⟨some (.node fault), steps + 1, c, e.reportFailure f n (.node fault) s⟩

def runLog (r : RunResult) : Log :=
  let fields := [("flow_id", .text r.flowId), ("trigger", .text r.triggerType.name),
    ("steps", .integer r.steps), ("duration_ms", .integer r.durationMs)]
  match r.error with
  | none => ⟨.info, .engine, "Run completed", fields⟩
  | some error => ⟨.info, .engine, "Run aborted", fields ++ [("error", .text error)]⟩

/-- Turns the end of a walk into the result of the run and keeps a record of it. Runs that were
not admitted are not recorded as finished. -/
def finish (e : Engine σ ω) (f : Flow) (trigger : Trigger) (started : Nat) (w : Walked σ ω) :
    RunResult × Session σ ω :=
  let (ended, s) := e.now w.session
  let r : RunResult :=
    { ok := w.fault.isNone, flowId := f.id, triggerType := trigger.type, steps := w.steps,
      durationMs := ended - started, error := w.fault.map RunFault.message,
      items := w.context.items }
  let s := { s with history := s.history.push r.record }
  let s := if w.fault = some .rateLimited then s else e.record s (.runFinished r)
  (r, tell s (runLog r))

/-- What sets runs of one trigger type apart: the target of the event, else the one of the
trigger, else its message type. -/
def selector (trigger : Trigger) (c : Context) : Option String :=
  (c.targetId.or trigger.targetId).or trigger.messageType

def permit (key : String) (trigger : Trigger) (now : Nat) (s : Session σ ω) :
    Bool × Session σ ω :=
  let (admitted, limiter) := s.limiter.acquire key trigger.type now
  (admitted, { s with limiter := limiter })

def reject (e : Engine σ ω) (f : Flow) (trigger : Trigger) (key : String) (s : Session σ ω) :
    Session σ ω :=
  let s := tell s ⟨.warn, .engine, "Run rejected by rate limiter",
    [("flow_id", .text f.id), ("trigger", .text trigger.type.name), ("key", .text key)]⟩
  e.record s (.rateLimited f.id trigger.type key)

def execute (e : Engine σ ω) (f : Flow) (trigger : Trigger) (c : Context) (s : Session σ ω) :
    RunResult × Session σ ω :=
  let (started, s) := e.now s
  let key := Limiter.key f.id trigger.type (selector trigger c)
  match permit key trigger started s with
  | (true, s) =>
    e.finish f trigger started
      (e.walk f e.settings.maxStepsPerRun 0 (nonBlank trigger.startNodeId) c s)
  | (false, s) =>
    e.finish f trigger started ⟨some .rateLimited, 0, c, e.reject f trigger key s⟩

end Engine
end PluginFlow
