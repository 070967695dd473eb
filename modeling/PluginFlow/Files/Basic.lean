import PluginFlow.Number.Layout

/-!
Files as far as flows need them: paths, why an operation on a file fails, and the operations that
a file system offers.
-/

namespace PluginFlow

inductive FileFault
  | notFound
  | exists
  | notDirectory
  | isDirectory
  | notText
  | other (message : String)
  deriving DecidableEq, Repr

namespace FileFault

def systemText (text : String) (number : Nat) : String :=
  text ++ " (os error " ++ Number.intText number ++ ")"

def message : FileFault → String
  | notFound => systemText "No such file or directory" 2
  | .exists => systemText "File exists" 17
  | notDirectory => systemText "Not a directory" 20
  | isDirectory => systemText "Is a directory" 21
  | notText => "stream did not contain valid UTF-8"
  | other message => message

end FileFault

namespace Path

def isAbsolute (path : String) : Bool := path.toList.head? == some '/'

def parts (path : String) : List String := path.splitOn "/"

/-- A path below another one. An absolute path stands for itself. -/
def join (base path : String) : String :=
  if isAbsolute path then path
  else if base.isEmpty || base.toList.getLast? == some '/' then base ++ path
  else base ++ "/" ++ path

/-- The parts that name something; a point at the start of a relative path counts. -/
def steps (path : String) : List String :=
  match parts path with
  | "." :: rest => "." :: rest.filter fun p => p ≠ "" ∧ p ≠ "."
  | ps => ps.filter fun p => p ≠ "" ∧ p ≠ "."

/-- The paths above a path, the nearest first. Above a relative path stands the empty one, above
the root nothing. -/
def above (path : String) : List String :=
  let root := if isAbsolute path then "/" else ""
  let steps := steps path
  (List.range steps.length).reverse.map fun n => root ++ "/".intercalate (steps.take n)

end Path

structure FileView (m : Type → Type) where
  read : String → m (Except FileFault (List UInt8))
  isFile : String → m Bool
  isDirectory : String → m Bool
  /-- The names in a directory. -/
  names : String → m (Except FileFault (List String))

structure FileStore (m : Type → Type) extends FileView m where
  makeDirectory : String → m (Except FileFault Unit)
  /-- Makes a file unless there is one. -/
  touch : String → m (Except FileFault Unit)
  append : String → List UInt8 → m (Except FileFault Unit)

namespace FileStore

variable {m : Type → Type} [Monad m]

def ensureDirectory (fs : FileStore m) (path : String) : m (Except FileFault Unit) := do
  match ← fs.makeDirectory path with
  | .ok _ => return .ok ()
  | .error f => return if ← fs.isDirectory path then .ok () else .error f

/-- Makes directories from the nearest missing one down to the first of some paths, each above the
one before it. -/
def ensureDirectories (fs : FileStore m) : List String → m (Except FileFault Unit)
  | [] => return .ok ()
  | path :: above => do
    if path = "" then return .ok ()
    match ← fs.ensureDirectory path with
    | .error .notFound =>
      match ← ensureDirectories fs above with
      | .ok _ => fs.ensureDirectory path
      | .error f => return .error f
    | outcome => return outcome

def openLog (fs : FileStore m) (path : String) : m (Except FileFault Unit) := do
  match ← fs.ensureDirectories (Path.above path) with
  | .ok _ => fs.touch path
  | .error f => return .error f

end FileStore
end PluginFlow
