import PluginFlow.Engine
import PluginFlow.Loader

/-!
Events that reach a loaded flow. Every trigger that an event matches starts a run, in the order in
which the flow declares them.
-/

namespace PluginFlow

/-- The selector that a trigger wants from events of a type; timers want none. -/
def Trigger.wanted (t : Trigger) : TriggerType → Option String
  | .onTimer => none
  | .onMessage => t.messageType
  | _ => t.targetId

/-- Whether an event starts a trigger. A trigger that wants no selector takes every one. -/
def Trigger.matches (t : Trigger) (type : TriggerType) (selector : Option String) : Bool :=
  t.type = type && ((t.wanted type).isNone || t.wanted type = selector)

def LoadedFlow.matching (f : LoadedFlow) (type : TriggerType) (selector : Option String) :
    List Trigger :=
  f.definition.triggers.filter (·.matches type selector)

/-- Events of the user interface bring their selector as the target, unless there is one. -/
def eventContext (type : TriggerType) (selector : Option String) (c : Context) : Context :=
  if type.isUi then { c with targetId := c.targetId.or selector } else c

namespace Engine

variable {σ ω : Type}

def executeAll (e : Engine σ ω) (f : Flow) (c : Context) :
    List Trigger → Session σ ω → List RunResult × Session σ ω
  | [], s => ([], s)
  | t :: rest, s =>
    let (r, s) := e.execute f t c s
    let (rs, s) := executeAll e f c rest s
    (r :: rs, s)

def dispatch (e : Engine σ ω) (f : LoadedFlow) (type : TriggerType) (selector : Option String)
    (c : Context) (s : Session σ ω) : List RunResult × Session σ ω :=
  let triggers := f.matching type selector
  let s := if triggers.isEmpty then
      tell s ⟨.debug, .runtime, "No trigger matched",
        [("flow_id", .text f.definition.id), ("trigger", .text type.name)]⟩
    else s
  e.executeAll f.definition (eventContext type selector c) triggers s

end Engine
end PluginFlow
