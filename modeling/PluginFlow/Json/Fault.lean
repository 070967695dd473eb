import PluginFlow.Number.Layout
import PluginFlow.Text.Quoted
import PluginFlow.Json.Draft

/-!
Why a text does not have the shape that a reader asks for, and the wording of each cause.
-/

namespace PluginFlow.Json

inductive Found
  | null
  | bool (b : Bool)
  | integer (i : Int)
  | decimal (n : Number)
  | text (s : String)
  | sequence
  | map
  deriving DecidableEq

/-- Why reading fails. A text that breaks off is told apart from one of the wrong shape. -/
inductive Fault
  | stop (s : Stop)
  | missingField (name : String)
  | duplicateField (name : String)
  | wrongKind (found : Found) (expected : String)
  | outOfRange (found : Int) (expected : String)
  | wrongLength (found : Nat) (expected : String)
  | unknownVariant (found : String) (allowed : List String)
  | noVariant (type : String)
  deriving DecidableEq

inductive Category
  | malformed
  | ended
  | shape
  deriving DecidableEq, Repr

def Fault.category : Fault → Category
  | .stop .malformed => .malformed
  | .stop (.ended _) => .ended
  | _ => .shape

def Found.describe : Found → String
  | .null => "null"
  | .bool b => "boolean `" ++ (if b then "true" else "false") ++ "`"
  | .integer i => "integer `" ++ Number.intText i ++ "`"
  | .decimal n => "floating point `" ++ n.write .json ++ "`"
  | .text s => "string " ++ Text.quoted s
  | .sequence => "sequence"
  | .map => "map"

def oneOf (names : List String) : String :=
  match names with
  | [a] => "`" ++ a ++ "`"
  | [a, b] => "`" ++ a ++ "` or `" ++ b ++ "`"
  | _ => "one of " ++ ", ".intercalate (names.map fun n => "`" ++ n ++ "`")

def Unfinished.noun : Unfinished → String
  | value => "a value"
  | string => "a string"
  | list => "a list"
  | object => "an object"

def Fault.message : Fault → String
  | .stop .malformed => "expected value"
  | .stop (.ended inside) => "EOF while parsing " ++ inside.noun
  | .missingField name => "missing field `" ++ name ++ "`"
  | .duplicateField name => "duplicate field `" ++ name ++ "`"
  | .wrongKind found expected => "invalid type: " ++ found.describe ++ ", expected " ++ expected
  | .outOfRange found expected =>
    "invalid value: " ++ (Found.integer found).describe ++ ", expected " ++ expected
  | .wrongLength found expected =>
    "invalid length " ++ Number.intText found ++ ", expected " ++ expected
  | .unknownVariant found allowed =>
    "unknown variant `" ++ found ++ "`, expected " ++ oneOf allowed
  | .noVariant type => "data did not match any variant of untagged enum " ++ type

end PluginFlow.Json
