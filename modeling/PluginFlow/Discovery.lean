import PluginFlow.Loader

/-!
Finding flows: every regular file of a directory whose name has the flow suffix is loaded, in the
order of the names. A file that cannot be loaded never stops the scan.
-/

namespace PluginFlow

def flowSuffix : String := ".flow.json"

inductive ScanFault
  | directoryNotFound (path : String)
  | directoryUnreadable (f : FileFault)
  | flow (path : String) (f : LoadFault)

namespace ScanFault

def message : ScanFault → String
  | directoryNotFound path => "Directory not found: " ++ path
  | directoryUnreadable f => "Failed to read directory: " ++ f.message
  | flow path f => "Failed to load flow " ++ path ++ ": " ++ f.message

def causes : ScanFault → List String
  | directoryNotFound _ => []
  | directoryUnreadable f => [f.message]
  | flow _ f => f.message :: f.cause?.toList

end ScanFault

structure Scan where
  flows : List LoadedFlow := []
  failures : List (String × ScanFault) := []

namespace Scan

def isSuccess (s : Scan) : Bool := s.failures.isEmpty

/-- How many flow files there were, lacking ones included. -/
def total (s : Scan) : Nat := s.flows.length + s.failures.length

def append (a b : Scan) : Scan := ⟨a.flows ++ b.flows, a.failures ++ b.failures⟩

def ofOutcomes : List (String × Except LoadFault LoadedFlow) → Scan
  | [] => {}
  | (_, .ok f) :: rest =>
    let s := ofOutcomes rest
    { s with flows := f :: s.flows }
  | (path, .error f) :: rest =>
    let s := ofOutcomes rest
    { s with failures := (path, .flow path f) :: s.failures }

end Scan

def isFlowName (name : String) : Bool := name.endsWith flowSuffix

namespace Loader

variable {m : Type → Type} [Monad m] {ω : Type}

def loadFile (l : Loader ω) (fs : FileView m) (path : String) (g : Grants) (j : Journal ω) :
    m (Except LoadFault LoadedFlow × Journal ω) := do
  return l.loadContent path (← fs.read path) g j

def flowPaths (fs : FileView m) (dir : String) (names : List String) : m (List String) := do
  ((names.filter isFlowName).mergeSort fun a b => decide (a ≤ b)).filterMapM fun name => do
    let path := Path.join dir name
    return if ← fs.isFile path then some path else none

def loadFiles (l : Loader ω) (fs : FileView m) (g : Grants) :
    List String → Journal ω → m (List (String × Except LoadFault LoadedFlow) × Journal ω)
  | [], j => return ([], j)
  | path :: rest, j => do
    let (r, j) ← l.loadFile fs path g j
    let j := match r with
      | .ok _ => j
      | .error f =>
        j.tell ⟨.warn, .discovery, "Failed to load flow",
          [("path", .text path), ("error", .text f.message)]⟩
    let (rs, j) ← loadFiles l fs g rest j
    return ((path, r) :: rs, j)

def scanLog (dir : String) (s : Scan) : Log :=
  ⟨.info, .discovery, "Scanned flow directory",
    [("dir", .text dir), ("loaded", .integer s.flows.length),
      ("failed", .integer s.failures.length)]⟩

def scanDirectory (l : Loader ω) (fs : FileView m) (g : Grants) (dir : String) (j : Journal ω) :
    m (Except ScanFault Scan × Journal ω) := do
  if !(← fs.isDirectory dir) then return (.error (.directoryNotFound dir), j)
  match ← fs.names dir with
  | .error f => return (.error (.directoryUnreadable f), j)
  | .ok names =>
    let (outcomes, j) ← l.loadFiles fs g (← flowPaths fs dir names) j
    let s := Scan.ofOutcomes outcomes
    return (.ok s, j.tell (scanLog dir s))

/-- Scans some directories in turn; one that cannot be scanned is one failure. -/
def scanDirectories (l : Loader ω) (fs : FileView m) (g : Grants) :
    List String → Journal ω → m (Scan × Journal ω)
  | [], j => return ({}, j)
  | dir :: rest, j => do
    let (r, j) ← l.scanDirectory fs g dir j
    let s : Scan := match r with
      | .ok s => s
      | .error f => { failures := [(dir, f)] }
    let (later, j) ← scanDirectories l fs g rest j
    return (s.append later, j)

end Loader

/-- The directories in which an application looks for flows: its own in the user's data directory,
and `flows` in the working directory. A data directory counts only when it is absolute. -/
def defaultFlowDirectories (application : String) (home dataHome : Option String) : List String :=
  let base := (dataHome.filter Path.isAbsolute).or (home.map fun h => Path.join h ".local/share")
  (base.map fun b => Path.join (Path.join b application) "flows").toList ++ ["flows"]

end PluginFlow
