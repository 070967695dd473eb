import PluginFlow.Files.Basic
import PluginFlow.KeyMap

/-!
A file system held in memory: files and directories by their full paths, and a working directory
for relative ones.
-/

namespace PluginFlow

inductive FileEntry
  | directory
  | file (bytes : List UInt8)
  deriving DecidableEq

structure FileTree where
  /-- Entries by full path; the root is always there. -/
  entries : KeyMap FileEntry := .empty
  /-- The names that lead to the working directory. -/
  working : List String := []

namespace FileTree

instance : Inhabited FileTree := ⟨{}⟩

def key (names : List String) : String := "/" ++ "/".intercalate names

def entry? (t : FileTree) (names : List String) : Option FileEntry :=
  if names.isEmpty then some .directory else t.entries.get? (key names)

/-- Follows the parts of a path; all but the last have to be directories. -/
def follow (t : FileTree) (here : List String) : List String → Except FileFault (List String)
  | [] => .ok here
  | "" :: rest => follow t here rest
  | "." :: rest => follow t here rest
  | ".." :: rest => follow t here.dropLast rest
  | name :: [] => .ok (here ++ [name])
  | name :: rest =>
    match t.entry? (here ++ [name]) with
    | some .directory => follow t (here ++ [name]) rest
    | some (.file _) => .error .notDirectory
    | none => .error .notFound

/-- The names that a path stands for, whether there is an entry or not. -/
def locate (t : FileTree) (path : String) : Except FileFault (List String) :=
  if path = "" then .error .notFound
  else t.follow (if Path.isAbsolute path then [] else t.working) (Path.parts path)

def find (t : FileTree) (path : String) : Except FileFault FileEntry := do
  match t.entry? (← t.locate path) with
  | some e => return e
  | none => throw .notFound

def read (t : FileTree) (path : String) : Except FileFault (List UInt8) := do
  match ← t.find path with
  | .file bytes => return bytes
  | .directory => throw .isDirectory

def isFile (t : FileTree) (path : String) : Bool :=
  match t.find path with
  | .ok (.file _) => true
  | _ => false

def isDirectory (t : FileTree) (path : String) : Bool :=
  match t.find path with
  | .ok .directory => true
  | _ => false

def nameBelow? (names : List String) (path : String) : Option String :=
  match (path.splitOn "/").drop 1 with
  | [] => none
  | all => if all.dropLast = names then all.getLast? else none

def names (t : FileTree) (path : String) : Except FileFault (List String) := do
  let here ← t.locate path
  match t.entry? here with
  | some .directory => return t.entries.keys.filterMap (nameBelow? here)
  | some (.file _) => throw .notDirectory
  | none => throw .notFound

def put (t : FileTree) (names : List String) (e : FileEntry) : FileTree :=
  { t with entries := t.entries.insert (key names) e }

def makeDirectory (t : FileTree) (path : String) : Except FileFault FileTree := do
  let here ← t.locate path
  match t.entry? here with
  | some _ => throw .exists
  | none => return t.put here .directory

def touch (t : FileTree) (path : String) : Except FileFault FileTree := do
  if path.toList.getLast? = some '/' then throw .isDirectory
  let here ← t.locate path
  match t.entry? here with
  | some .directory => throw .isDirectory
  | some (.file _) => return t
  | none => return t.put here (.file [])

/-- Adds bytes to the end of a file. A file that was removed meanwhile takes them unseen. -/
def append (t : FileTree) (path : String) (bytes : List UInt8) : FileTree :=
  match t.locate path with
  | .ok here =>
    match t.entry? here with
    | some (.file old) => t.put here (.file (old ++ bytes))
    | _ => t
  | .error _ => t

def remove (t : FileTree) (path : String) : FileTree :=
  match t.locate path with
  | .ok here =>
    { t with entries := ⟨t.entries.entries.filter fun e =>
        !(here.isPrefixOf ((e.1.splitOn "/").drop 1)),
      t.entries.ordered.sublist (List.filter_sublist.map _)⟩ }
  | .error _ => t

def view (t : FileTree) : FileView Id where
  read := t.read
  isFile := t.isFile
  isDirectory := t.isDirectory
  names := t.names

def change (r : Except FileFault FileTree) : StateM FileTree (Except FileFault Unit) :=
  match r with
  | .ok t => do
    set t
    return .ok ()
  | .error f => return .error f

def store : FileStore (StateM FileTree) where
  read path := do return (← get).read path
  isFile path := do return (← get).isFile path
  isDirectory path := do return (← get).isDirectory path
  names path := do return (← get).names path
  makeDirectory path := do change ((← get).makeDirectory path)
  touch path := do change ((← get).touch path)
  append path bytes := do change (.ok ((← get).append path bytes))

end FileTree
end PluginFlow
