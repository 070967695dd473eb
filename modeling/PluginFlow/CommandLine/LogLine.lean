import PluginFlow.CommandLine.Arguments
import PluginFlow.Log

/-!
How a log line is written.
-/

namespace PluginFlow.CommandLine

open Json (Document)

def jsonLine (timestamp : String) (l : Log) : String :=
  (Document.object [("timestamp", .text timestamp), ("level", .text l.level.name),
    ("fields", l.fieldsDocument), ("target", .text l.source.target)]).compact

def fieldText (f : String × LogValue) : String :=
  f.1 ++ "=" ++
    match f.2 with
    | .text s => s
    | .integer i => Number.intText i

def plainLine (timestamp : String) (l : Log) : String :=
  " ".intercalate
    (timestamp :: l.level.name :: (l.source.target ++ ":") :: l.message :: l.fields.map fieldText)

/-- A line in a format; the pretty one sets it apart by an empty line. -/
def LogFormat.line (f : LogFormat) (timestamp : String) (l : Log) : String :=
  match f with
  | json => jsonLine timestamp l
  | compact => plainLine timestamp l
  | pretty => plainLine timestamp l ++ "\n"

end PluginFlow.CommandLine
