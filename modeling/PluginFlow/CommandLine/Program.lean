import PluginFlow.Audit.Store
import PluginFlow.Catalog.Builtin
import PluginFlow.CommandLine.Arguments
import PluginFlow.CommandLine.Report
import PluginFlow.Dispatch
import PluginFlow.Net.Sandbox
import PluginFlow.Run.Form

/-!
The commands: checking a flow, scanning directories for flows, and running the triggers that an
event starts. Files are read through a file store; all else is decided here.
-/

namespace PluginFlow.CommandLine

def programName : String := "flow-run"

def version : String := "0.3.0"

def applicationName : String := "flow-cli"

structure Environment where
  home : Option String := none
  dataHome : Option String := none
  logFilter : Option String := none
  config : Option String := none
  /-- The time at which the program starts. -/
  timestamp : String

/-- The grants that names in any ASCII case stand for; no names stand for all. -/
def grantsOf (names : List String) : Except Failure Grants :=
  if names.isEmpty then .ok .all
  else do
    let effects ← names.mapM fun name =>
      match SideEffect.all.find? fun e => Text.equalsIgnoringCase e.name (Text.trim name) with
      | some e => .ok e
      | none => throw ⟨"unknown side effect '" ++ name ++ "'", []⟩
    return .ofList effects

/-- The filter of an invocation: the one given, else the one of the environment if it is one. -/
def filterOf (i : Invocation) (env : Environment) : Except Failure Filter :=
  match i.logLevel with
  | some s =>
    match Filter.parse? s with
    | some f => .ok f
    | none => .error ⟨"invalid filter directive", []⟩
  | none => .ok ((env.logFilter.bind Filter.parse?).getD .informing)

def acceptedLine (f : LoadedFlow) : String := f.definition.id ++ " ok (" ++ f.hash ++ ")"

section Commands

variable {m : Type → Type} [Monad m] (fs : FileStore m)

def validate (path : String) (g : Grants) : m Report := do
  let l : Loader Unit := { registry := .builtin, sink := .dropping }
  let (r, j) ← l.loadFile fs.toFileView path g { trail := () }
  match r with
  | .error f => return { logs := j.logs : Report }.fail ((Failure.ofLoad f).context ("loading " ++ path))
  | .ok f =>
    return { out := [acceptedLine f], logs := j.logs,
             err := f.warnings.map fun w => "warning: " ++ w.message }

def presentDirectories : List String → m (List String × List Log)
  | [] => return ([], [])
  | dir :: rest => do
    let (dirs, logs) ← presentDirectories rest
    if ← fs.isDirectory dir then return (dir :: dirs, logs)
    else
      return (dirs, ⟨.debug, .commandLine, "Skipping missing flow directory",
        [("dir", .text dir)]⟩ :: logs)

def scanReport (s : Scan) (logs : List Log) : Report :=
  let r : Report :=
    { out := s.flows.map acceptedLine, logs := logs,
      err := s.failures.map fun f => f.1 ++ ": " ++ f.2.message }
  if s.isSuccess then r
  else r.fail ⟨Number.intText s.failures.length ++ " of " ++ Number.intText s.total ++
    " flows failed to load", []⟩

def scan (env : Environment) (dir : Option String) (g : Grants) : m Report := do
  let l : Loader Unit := { registry := .builtin, sink := .dropping }
  match dir with
  | some dir =>
    match ← l.scanDirectory fs.toFileView g dir { trail := () } with
    | (.ok s, j) => return scanReport s j.logs
    | (.error f, j) => return { logs := j.logs : Report }.fail (.ofScan f)
  | none =>
    let (dirs, logs) ← presentDirectories fs
      (defaultFlowDirectories applicationName env.home env.dataHome)
    let (s, j) ← l.scanDirectories fs.toFileView g dirs { trail := () }
    return scanReport s (logs ++ j.logs)

def settingsOf (path : Option String) : m (Except Failure Settings) := do
  match path with
  | none => return .ok {}
  | some path =>
    match Settings.ofContent? path (← fs.read path) with
    | .ok s => return .ok s
    | .error f => return .error (.ofSettings f)

def openAudit (path : Option String) : m (Except Failure Audit.Stores) := do
  match path with
  | none => return .ok {}
  | some path =>
    match ← fs.openLog path with
    | .ok _ => return .ok ⟨[.file { path := path }]⟩
    | .error f => return .error (.ofAudit (.unwritable f.message))

def closeAudit (s : Audit.Stores) : m (Except Audit.Fault Unit) := do
  let (outcome, s) := s.flush
  let (delivered, _) ← Audit.Stores.deliver fs s.stores
  return Audit.firstFault [outcome, delivered]

def platformOf (r : RunRequest) (s : Settings) : Platform Unit :=
  if r.offline then .refusing
  else Net.Sandbox.platform { settings := s.network, transport := Net.closedTransport }

/-- Starts the triggers of a loaded flow that an event of the request starts; none when there can
be no session. -/
def dispatch (r : RunRequest) (s : Settings) (timestamp : String) (f : LoadedFlow)
    (j : Journal Audit.Stores) : Option (List RunResult × Session Unit Audit.Stores) := do
  let e : Engine Unit Audit.Stores :=
    { registry := .builtin, settings := s, platform := platformOf r s,
      sink := Audit.Stores.sink timestamp }
  let session ← e.start? (KeyMap.ofList r.state) () j
  let type := TriggerType.ofName r.trigger
  let (results, session) := e.dispatch f type r.selector { data := KeyMap.ofList r.data } session
  return (results, Engine.tell session ⟨.info, .commandLine, "Dispatched trigger",
    [("flow_id", .text f.definition.id), ("runs", .integer results.length)]⟩)

def runReport (r : RunRequest) (results : List RunResult) (state : KeyMap Value)
    (logs : List Log) : Report :=
  let shown := if r.printState then [(itemDocument state).indented] else []
  let report : Report :=
    { out := (Json.Document.array (results.map RunResult.toDocument)).indented :: shown,
      logs := logs }
  if results.isEmpty then report.fail ⟨"no trigger matched " ++ r.trigger, []⟩ else report

def runWith (r : RunRequest) (s : Settings) (timestamp : String) (stores : Audit.Stores) :
    m Report := do
  match grantsOf r.grants with
  | .error f => return ({} : Report).fail f
  | .ok g =>
    let l : Loader Audit.Stores := { registry := .builtin, sink := Audit.Stores.sink timestamp }
    let (loaded, j) ← l.loadFile fs.toFileView r.flow g { trail := stores }
    match loaded with
    | .error f =>
      return { logs := j.logs : Report }.fail ((Failure.ofLoad f).context ("loading " ++ r.flow))
    | .ok f =>
      match dispatch r s timestamp f j with
      | none =>
        let _ ← closeAudit fs j.trail
        return { exit := 101, logs := j.logs, err := ["capacity overflow"] }
      | some (results, session) =>
        let logs := session.journal.logs
        match ← closeAudit fs session.journal.trail with
        | .error f => return { logs := logs : Report }.fail (.ofAudit f)
        | .ok _ => return runReport r results session.state logs

def run (r : RunRequest) (timestamp : String) : m Report := do
  match ← settingsOf fs r.config with
  | .error f => return ({} : Report).fail f
  | .ok s =>
    match ← openAudit fs r.auditLog with
    | .error f => return ({} : Report).fail f
    | .ok stores => runWith fs r s timestamp stores

def Command.carryOut (env : Environment) : Command → m Report
  | validate path names =>
    match grantsOf names with
    | .ok g => CommandLine.validate fs path g
    | .error f => return ({} : Report).fail f
  | scan dir names =>
    match grantsOf names with
    | .ok g => CommandLine.scan fs env dir g
    | .error f => return ({} : Report).fail f
  | run r => CommandLine.run fs r env.timestamp

def helpText : String :=
  "\n".intercalate
    ["Usage: " ++ programName ++ " [OPTIONS] <COMMAND>", "",
      "Commands:", "  validate <FLOW>  Check a flow without running it",
      "  scan [DIR]       Load every flow of a directory",
      "  run <FLOW>       Start the triggers of a flow", "",
      "Options:", "  --log-level <LEVEL>    Which log lines are shown",
      "  --log-format <FORMAT>  pretty, compact or json",
      "  -h, --help             Show this text", "  -V, --version          Show the version"]

def answer (env : Environment) (args : List String) : m (Report × LogFormat) := do
  match read env.config args with
  | .error f => return ({ exit := 2, err := ["error: " ++ f.message] }, .pretty)
  | .ok .version => return ({ out := [programName ++ " " ++ version] }, .pretty)
  | .ok .help => return ({ out := [helpText] }, .pretty)
  | .ok (.invoke i) =>
    match filterOf i env with
    | .error f => return (({} : Report).fail f, i.logFormat)
    | .ok filter => return ((← i.command.carryOut fs env).filtered filter, i.logFormat)

end Commands
end PluginFlow.CommandLine
