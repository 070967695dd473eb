import PluginFlow.CommandLine.Filter
import PluginFlow.Config.Form
import PluginFlow.Discovery

/-!
What a command leaves: the text of its output, the lines of its errors, and an exit code.
-/

namespace PluginFlow.CommandLine

/-- Why a command failed, with the causes behind it, the nearest first. -/
structure Failure where
  message : String
  causes : List String := []
  deriving DecidableEq

namespace Failure

def setIn (blanks : Nat) (text : String) : String :=
  ("\n" ++ String.ofList (List.replicate blanks ' ')).intercalate (text.splitOn "\n")

def numbered : Nat → List String → List String
  | _, [] => []
  | n, cause :: rest =>
    let number := Number.intText n
    (String.ofList (List.replicate (5 - number.length) ' ') ++ number ++ ": " ++ setIn 7 cause) ::
      numbered (n + 1) rest

/-- The report of a failure: its message, and its causes below. Several causes are numbered. -/
def text (f : Failure) : String :=
  let head := "Error: " ++ f.message
  match f.causes with
  | [] => head
  | [cause] => head ++ "\n\nCaused by:\n    " ++ setIn 4 cause
  | causes => head ++ "\n\nCaused by:\n" ++ "\n".intercalate (numbered 0 causes)

def ofLoad (f : LoadFault) : Failure := ⟨f.message, f.cause?.toList⟩

def ofScan (f : ScanFault) : Failure := ⟨f.message, f.causes⟩

def ofSettings (f : Settings.LoadFault) : Failure := ⟨f.message, f.cause?.toList⟩

def context (message : String) (f : Failure) : Failure := ⟨message, f.message :: f.causes⟩

def ofAudit (f : Audit.Fault) : Failure :=
  match f with
  | .unwritable reason => ⟨f.message, [reason]⟩
  | .unavailable _ => ⟨f.message, []⟩

end Failure

structure Report where
  exit : Nat := 0
  out : List String := []
  err : List String := []
  logs : List Log := []

namespace Report

def fail (r : Report) (f : Failure) : Report := { r with exit := 1, err := r.err ++ [f.text] }

def linesText (lines : List String) : String := String.join (lines.map (· ++ "\n"))

def filtered (r : Report) (f : Filter) : Report := { r with logs := r.logs.filter f.shows }

end Report
end PluginFlow.CommandLine
