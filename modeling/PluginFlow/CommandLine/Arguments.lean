import PluginFlow.Value.Form

/-!
What the words of a command line ask for. Words are read from left to right; options may stand
before or after other words, a value follows its option or stands behind `=`, and after `--` all
words are taken as they are.
-/

namespace PluginFlow.CommandLine

inductive LogFormat
  | pretty
  | compact
  | json
  deriving DecidableEq, Repr

def LogFormat.ofName? (name : String) : Option LogFormat :=
  [("pretty", pretty), ("compact", compact), ("json", json)].lookup name

structure RunRequest where
  flow : String
  grants : List String := []
  trigger : String := "OnClick"
  selector : Option String := none
  data : List (String × Value) := []
  state : List (String × Value) := []
  config : Option String := none
  auditLog : Option String := none
  offline : Bool := false
  printState : Bool := false

inductive Command
  | validate (flow : String) (grants : List String)
  | scan (directory : Option String) (grants : List String)
  | run (r : RunRequest)

structure Invocation where
  logLevel : Option String := none
  logFormat : LogFormat := .pretty
  command : Command

inductive Request
  | version
  | help
  | invoke (i : Invocation)

inductive UsageFault
  | unknownOption (word : String)
  | missingValue (option : String)
  | needlessValue (option : String)
  | repeated (option : String)
  | invalidValue (option value : String)
  | missingWord (name : String)
  | unexpectedWord (word : String)
  | unknownCommand (word : String)
  | noCommand
  deriving DecidableEq

def UsageFault.message : UsageFault → String
  | unknownOption word => "unexpected option '" ++ word ++ "'"
  | missingValue option => "a value is required for '--" ++ option ++ "'"
  | needlessValue option => "'--" ++ option ++ "' takes no value"
  | repeated option => "'--" ++ option ++ "' cannot be used several times"
  | invalidValue option value => "invalid value '" ++ value ++ "' for '" ++ option ++ "'"
  | missingWord name => "'" ++ name ++ "' is required"
  | unexpectedWord word => "unexpected word '" ++ word ++ "'"
  | unknownCommand word => "unknown command '" ++ word ++ "'"
  | noCommand => "a command is required"

inductive Place
  | front
  | validate
  | scan
  | run
  deriving DecidableEq, Repr

inductive Arity
  | switch
  | single
  | many
  deriving DecidableEq, Repr

def logOptions : List (String × Arity) := [("log-level", .single), ("log-format", .single)]

def grantOptions : List (String × Arity) := [("grant", .many)]

def Place.options : Place → List (String × Arity)
  | front => logOptions
  | validate => logOptions ++ grantOptions
  | scan => logOptions ++ grantOptions
  | run =>
    logOptions ++ grantOptions ++
      [("trigger", .single), ("selector", .single), ("data", .many), ("state", .many),
        ("config", .single), ("audit-log", .single), ("offline", .switch),
        ("print-state", .switch)]

/-- A key and a value around the first `=`. The value is read as JSON if it is a value there, else
as text. -/
def pair? (word : String) : Option (String × Value) :=
  match word.toList.span (· ≠ '=') with
  | (key, _ :: value) =>
    let text := String.ofList value
    let value := match Json.read Value.reader (Text.Utf8.encode text) with
      | .ok v => v
      | .error _ => Value.text text
    some (Text.trim (String.ofList key), value)
  | (_, []) => none

def isValid (option value : String) : Bool :=
  if option = "log-format" then (LogFormat.ofName? value).isSome
  else if option = "data" ∨ option = "state" then (pair? value).isSome
  else if option = "config" ∨ option = "audit-log" then value ≠ ""
  else true

structure Words where
  given : List (String × String) := []
  others : List String := []

namespace Words

def value? (w : Words) (option : String) : Option String := w.given.lookup option

def values (w : Words) (option : String) : List String :=
  w.given.filterMap fun g => if g.1 = option then some g.2 else none

def has (w : Words) (option : String) : Bool := (w.value? option).isSome

def give (w : Words) (arity : Arity) (option value : String) : Except UsageFault Words :=
  if arity ≠ .many ∧ w.has option then .error (.repeated option)
  else if isValid option value then .ok { w with given := w.given ++ [(option, value)] }
  else .error (.invalidValue option value)

def add (w : Words) (word : String) : Words := { w with others := w.others ++ [word] }

end Words

def isPlain (word : String) : Bool :=
  match word.toList with
  | ['-'] => true
  | '-' :: _ => false
  | _ => true

/-- An option word: its name, and the value behind `=` if there is one. -/
def option? (word : String) : Option (String × Option String) :=
  match Text.dropPrefixText? "--" word with
  | none => none
  | some rest =>
    match rest.toList.span (· ≠ '=') with
    | (name, _ :: value) => some (String.ofList name, some (String.ofList value))
    | (name, []) => some (String.ofList name, none)

/-- What the words of a place come to: a request for version or help that ends the reading, or the
words, of which the front leaves those from its command on. -/
inductive Outcome
  | asked (r : Request)
  | words (w : Words) (rest : List String)

def isHelp (word : String) : Bool := word ∈ ["-h", "--help"]

def isVersion (place : Place) (word : String) : Bool :=
  place = .front ∧ word ∈ ["-V", "--version"]

def readWords (place : Place) (w : Words) : List String → Except UsageFault Outcome
  | [] => .ok (.words w [])
  | "--" :: rest =>
    match place, rest with
    | .front, word :: _ => .error (.unexpectedWord word)
    | _, _ => .ok (.words (rest.foldl Words.add w) [])
  | word :: rest =>
    if isHelp word then .ok (.asked .help)
    else if isVersion place word then .ok (.asked .version)
    else
      match option? word with
      | some (name, attached) =>
        match place.options.lookup name, attached, rest with
        | none, _, _ => .error (.unknownOption word)
        | some .switch, none, rest => do readWords place (← w.give .switch name "") rest
        | some .switch, some _, _ => .error (.needlessValue name)
        | some arity, some value, rest => do readWords place (← w.give arity name value) rest
        | some arity, none, value :: rest => do
          if isPlain value then readWords place (← w.give arity name value) rest
          else .error (.missingValue name)
        | some _, none, [] => .error (.missingValue name)
      | none =>
        if isPlain word then
          if place = .front then .ok (.words w (word :: rest))
          else readWords place (w.add word) rest
        else .error (.unknownOption word)

def Words.grants (w : Words) : List String := (w.values "grant").flatMap fun v => v.splitOn ","

def Words.only (w : Words) (name : String) : Except UsageFault (Option String) :=
  match w.others with
  | [] => .ok none
  | [""] => .error (.invalidValue name "")
  | [word] => .ok (some word)
  | _ :: word :: _ => .error (.unexpectedWord word)

def Words.flow (w : Words) : Except UsageFault String := do
  match ← w.only "FLOW" with
  | some path => return path
  | none => throw (.missingWord "FLOW")

/-- The settings file: the one given, else the one that the environment names. -/
def Words.config (w : Words) (inherited : Option String) : Except UsageFault (Option String) :=
  match w.value? "config", inherited with
  | some path, _ => .ok (some path)
  | none, some "" => .error (.invalidValue "config" "")
  | none, inherited => .ok inherited

def Words.command (w : Words) (inherited : Option String) : Place → Except UsageFault Command
  | .validate => do return .validate (← w.flow) w.grants
  | .scan => do return .scan (← w.only "DIR") w.grants
  | .run => do
    return .run
      { flow := (← w.flow), grants := w.grants, trigger := (w.value? "trigger").getD "OnClick",
        selector := w.value? "selector", data := (w.values "data").filterMap pair?,
        state := (w.values "state").filterMap pair?, config := (← w.config inherited),
        auditLog := w.value? "audit-log", offline := w.has "offline",
        printState := w.has "print-state" }
  | .front => .error .noCommand

def placeOf? (word : String) : Option Place :=
  [("validate", Place.validate), ("scan", .scan), ("run", .run)].lookup word

/-- Reads a command line. Log options count wherever they stand; those behind the command win. -/
def read (inheritedConfig : Option String) (args : List String) : Except UsageFault Request := do
  match ← readWords .front {} args with
  | .asked r => return r
  | .words _ [] => throw .noCommand
  | .words front (name :: rest) =>
    if name = "help" then return .help
    match placeOf? name with
    | none => throw (.unknownCommand name)
    | some place =>
      match ← readWords place {} rest with
      | .asked r => return r
      | .words w _ =>
        let format := (w.value? "log-format").or (front.value? "log-format")
        return .invoke
          { logLevel := (w.value? "log-level").or (front.value? "log-level"),
            logFormat := (format.bind LogFormat.ofName?).getD .pretty,
            command := (← w.command inheritedConfig place) }

end PluginFlow.CommandLine
