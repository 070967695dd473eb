import PluginFlow.Json.Document

/-!
Log lines: what a part of the program tells about its work. A line is plain data; whether it is
shown is decided where the program ends.
-/

namespace PluginFlow

open Json (Document)

inductive Level
  | error
  | warn
  | info
  | debug
  | trace
  deriving DecidableEq, Repr

namespace Level

def all : List Level := [error, warn, info, debug, trace]

def name : Level → String
  | error => "ERROR"
  | warn => "WARN"
  | info => "INFO"
  | debug => "DEBUG"
  | trace => "TRACE"

/-- How much a level lets through: lower ranks are more urgent. -/
def rank : Level → Nat
  | error => 1
  | warn => 2
  | info => 3
  | debug => 4
  | trace => 5

end Level

inductive LogSource
  | engine
  | nodes
  | loader
  | runtime
  | capability
  | discovery
  | sandbox
  | commandLine
  deriving DecidableEq, Repr

def LogSource.target : LogSource → String
  | engine => "flow_host::engine"
  | nodes => "flow_host::engine::nodes"
  | loader => "flow_host::loader"
  | runtime => "flow_host::runtime"
  | capability => "flow_host::capability"
  | discovery => "flow_host::discovery"
  | sandbox => "flow_host::net"
  | commandLine => "flow_run"

inductive LogValue
  | text (s : String)
  | integer (i : Int)
  deriving DecidableEq

structure Log where
  level : Level
  source : LogSource
  message : String
  fields : List (String × LogValue) := []
  deriving DecidableEq

namespace Log

/-- All fields of a line. Its message is one of them, unless a field has that name. -/
def allFields (l : Log) : List (String × LogValue) :=
  if (l.fields.lookup "message").isSome then l.fields
  else ("message", .text l.message) :: l.fields

def LogValue.toDocument : LogValue → Document
  | .text s => .text s
  | .integer i => .integer i

def fieldsDocument (l : Log) : Document :=
  .object (l.allFields.map fun f => (f.1, LogValue.toDocument f.2))

end Log
end PluginFlow
