import PluginFlow.Audit.Event
import PluginFlow.Capability

/-!
The journal of a session: everything that was asked of the platform, recorded or told, in order.
Events also go to a sink with a state of its own. A sink that fails is told about and changes
nothing else.
-/

namespace PluginFlow

inductive Act
  | called (c : Call)
  | recorded (e : Audit.Event)
  | told (l : Log)
  deriving DecidableEq

namespace Audit

inductive Fault
  | unwritable (reason : String)
  | unavailable (name : String)
  deriving DecidableEq

def Fault.message : Fault → String
  | unwritable reason => "Failed to write audit log: " ++ reason
  | unavailable name => "Audit sink not available: " ++ name

structure Sink (ω : Type) where
  record : Event → ω → Except Fault Unit × ω

def Sink.dropping : Sink Unit where
  record _ t := (.ok (), t)

end Audit

/-- The state of a sink and the acts so far, the latest first. -/
structure Journal (ω : Type) where
  trail : ω
  acts : List Act := []

namespace Journal

variable {ω : Type}

def add (j : Journal ω) (a : Act) : Journal ω := { j with acts := a :: j.acts }

def tell (j : Journal ω) (l : Log) : Journal ω := j.add (.told l)

def tellAll (j : Journal ω) (ls : List Log) : Journal ω := ls.foldl tell j

/-- Hands an event to the sink; a fault is told in the name of the given part. -/
def record (sink : Audit.Sink ω) (source : LogSource) (j : Journal ω) (e : Audit.Event) :
    Journal ω :=
  let (outcome, trail) := sink.record e j.trail
  let j := { j with trail := trail }.add (.recorded e)
  match outcome with
  | .ok _ => j
  | .error f => j.tell ⟨.warn, source, "Failed to record audit event", [("error", .text f.message)]⟩

def inOrder (j : Journal ω) : List Act := j.acts.reverse

def events (j : Journal ω) : List Audit.Event :=
  j.inOrder.filterMap fun
    | .recorded e => some e
    | _ => none

def calls (j : Journal ω) : List Call :=
  j.inOrder.filterMap fun
    | .called c => some c
    | _ => none

def logs (j : Journal ω) : List Log :=
  j.inOrder.filterMap fun
    | .told l => some l
    | _ => none

end Journal
end PluginFlow
