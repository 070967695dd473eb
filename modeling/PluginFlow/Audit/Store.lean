import PluginFlow.Audit.Journal
import PluginFlow.Files.Basic
import PluginFlow.Text.Quoted
import PluginFlow.Text.Utf8

/-!
Where an audit trail is kept: in memory, in a log file with one line an event, nowhere, or in
several such places at once. A log file holds bytes back until its buffer is full or flushed; what
it has handed on waits here for the file system.
-/

namespace PluginFlow.Audit

structure Memory where
  maxEvents : Nat
  events : List Event := []
  deriving DecidableEq

namespace Memory

def defaultCapacity : Nat := 1000

/-- An empty memory; at least one event is kept. -/
def ofCapacity (capacity : Nat) : Memory := { maxEvents := max capacity 1 }

def record (s : Memory) (e : Event) : Memory :=
  { s with events := (if s.maxEvents ≤ s.events.length then s.events.drop 1 else s.events) ++ [e] }

def clear (s : Memory) : Memory := { s with events := [] }

def findByFlow (s : Memory) (flowId : String) : List Event :=
  s.events.filter (·.flowId == flowId)

def findByType (s : Memory) (type : EventType) : List Event := s.events.filter (·.type == type)

def describe (s : Memory) : String :=
  "MemoryAuditSink \x7b count: " ++ Number.intText s.events.length ++ ", max_events: " ++
    Number.intText s.maxEvents ++ " \x7d"

end Memory

structure LogFile where
  path : String
  /-- Bytes held back. -/
  held : List UInt8 := []
  /-- Bytes handed on, in order. -/
  sent : List UInt8 := []
  deriving DecidableEq

namespace LogFile

def bufferSize : Nat := 8192

def flush (f : LogFile) : LogFile := { f with held := [], sent := f.sent ++ f.held }

/-- Takes a piece into the buffer. What does not fit empties the buffer first, and a piece as
large as the buffer is handed on at once. -/
def write (f : LogFile) (piece : List UInt8) : LogFile :=
  let f := if bufferSize < f.held.length + piece.length then f.flush else f
  if bufferSize ≤ piece.length then { f with sent := f.sent ++ piece }
  else { f with held := f.held ++ piece }

def line (e : Entry) : List UInt8 := Text.Utf8.encode e.toDocument.compact

def record (f : LogFile) (e : Entry) : LogFile := (f.write (line e)).write [10]

def describe (f : LogFile) : String :=
  "FileAuditSink \x7b path: " ++ Text.quoted f.path ++ " \x7d"

end LogFile

inductive Store
  | memory (s : Memory)
  | file (f : LogFile)
  /-- Takes no events and says so. -/
  | unavailable (name : String)
  /-- Drops every event. -/
  | nothing
  deriving DecidableEq

namespace Store

def record (e : Entry) : Store → Except Fault Unit × Store
  | memory s => (.ok (), memory (s.record e.event))
  | file f => (.ok (), file (f.record e))
  | unavailable name => (.error (.unavailable name), unavailable name)
  | nothing => (.ok (), nothing)

def flush : Store → Except Fault Unit × Store
  | file f => (.ok (), file f.flush)
  | unavailable name => (.error (.unavailable (name ++ " flush")), unavailable name)
  | s => (.ok (), s)

end Store

def firstFault : List (Except Fault Unit) → Except Fault Unit
  | [] => .ok ()
  | .ok _ :: rest => firstFault rest
  | .error f :: _ => .error f

structure Stores where
  stores : List Store := []

namespace Stores

/-- Does something in every place, also after a fault; the first fault is the outcome. -/
def inAll (s : Stores) (step : Store → Except Fault Unit × Store) : Except Fault Unit × Stores :=
  let outcomes := s.stores.map step
  (firstFault (outcomes.map (·.1)), ⟨outcomes.map (·.2)⟩)

def record (s : Stores) (e : Entry) : Except Fault Unit × Stores := s.inAll (Store.record e)

def flush (s : Stores) : Except Fault Unit × Stores := s.inAll Store.flush

def describe (s : Stores) : String :=
  "CompositeAuditSink \x7b sink_count: " ++ Number.intText s.stores.length ++ " \x7d"

def deliver {m : Type → Type} [Monad m] (fs : FileStore m) :
    List Store → m (Except Fault Unit × List Store)
  | [] => return (.ok (), [])
  | .file f :: rest => do
    let outcome ← if f.sent.isEmpty then pure (.ok ()) else fs.append f.path f.sent
    let (later, rest) ← deliver fs rest
    let first := match outcome with
      | .ok _ => later
      | .error fault => .error (.unwritable fault.message)
    return (first, .file { f with sent := [] } :: rest)
  | s :: rest => do
    let (later, rest) ← deliver fs rest
    return (later, s :: rest)

/-- Whether every place can take events: the directory of a log file has to be there. -/
def isHealthy {m : Type → Type} [Monad m] (fs : FileView m) : List Store → m Bool
  | [] => return true
  | .file f :: rest => do
    match Path.above f.path with
    | [] => isHealthy fs rest
    | parent :: _ =>
      if (← fs.isDirectory parent) || (← fs.isFile parent) then isHealthy fs rest
      else return false
  | .unavailable _ :: _ => return false
  | _ :: rest => isHealthy fs rest

end Stores

/-- A sink into several places that stamps every event with one time. -/
def Stores.sink (timestamp : String) : Sink Stores where
  record e s := s.record ⟨timestamp, e⟩

end PluginFlow.Audit
