import PluginFlow.CommandLine.LogLine
import PluginFlow.CommandLine.Program
import PluginFlow.CommandLine.Timestamp
import Std.Time.Format

/-!
The program: the files, the surroundings and the streams of the operating system.
-/

namespace PluginFlow.CommandLine

def fileFault (e : IO.Error) : FileFault :=
  match e with
  | .noFileOrDirectory .. => .notFound
  | .alreadyExists .. => .exists
  | .inappropriateType _ 20 _ => .notDirectory
  | .inappropriateType _ 21 _ => .isDirectory
  | .permissionDenied _ code _ => .other (FileFault.systemText "Permission denied" code.toNat)
  | e => .other (toString e)

def attempt {α : Type} (action : IO α) : IO (Except FileFault α) := do
  try return .ok (← action) catch e => return .error (fileFault e)

/-- A path as an entry of a directory, the form in which the system is asked about it. -/
def entryOf (path : String) : IO.FS.DirEntry := { root := path, fileName := "" }

def hasType (type : IO.FS.FileType) (path : String) : IO Bool := do
  match ← attempt (entryOf path).root.metadata with
  | .ok m => return m.type == type
  | .error _ => return false

def systemFiles : FileStore IO where
  read path := attempt do return (← IO.FS.readBinFile path).toList
  isFile := hasType .file
  isDirectory := hasType .dir
  names path := attempt do
    return (← (entryOf path).root.readDir).toList.map (·.fileName)
  makeDirectory path := attempt (IO.FS.createDir path)
  touch path := attempt do let _ ← IO.FS.Handle.mk path .append
  append path bytes := attempt do
    let handle ← IO.FS.Handle.mk path .append
    handle.write ⟨bytes.toArray⟩
    handle.flush

def surroundings : IO Environment := do
  let now ← Std.Time.Timestamp.now
  return { home := (← IO.getEnv "HOME").filter (· ≠ ""), dataHome := ← IO.getEnv "XDG_DATA_HOME",
           logFilter := ← IO.getEnv "RUST_LOG", config := ← IO.getEnv "FLOW_ENGINE_CONFIG",
           timestamp := timestampText now.toMillisecondsSinceUnixEpoch.val.toNat }

end PluginFlow.CommandLine

open PluginFlow.CommandLine in
def main (args : List String) : IO UInt32 := do
  let env ← surroundings
  let (report, format) ← answer systemFiles env args
  for l in report.logs do
    IO.eprintln (format.line env.timestamp l)
  IO.print (Report.linesText report.out)
  IO.eprint (Report.linesText report.err)
  return report.exit.toUInt32
