import PluginFlow.Asset
import PluginFlow.Run.Context
import PluginFlow.Text.Base64

/-!
References of params to run data. A text with the form of a reference stands for what it refers
to; a value found by a reference is taken as it is, even if it looks like a reference itself.
-/

namespace PluginFlow

inductive Reference
  | state (key : String)
  | item (key : String)
  | data (key : String)
  | targetId
  | asset (path : String)
  deriving DecidableEq

namespace Reference

def ofText? (s : String) : Option Reference :=
  ((Text.dropPrefixText? "state." s).map state).or <|
    ((Text.dropPrefixText? "item." s).map item).or <|
      ((Text.dropPrefixText? "action.data." s).map data).or <|
        (if s = "action.targetId" then some targetId else none).or <|
          (Text.dropPrefixText? "asset:" s).map asset

/-- The beginnings that mark a text as a reference before a run, when what it refers to is not
known. -/
def markers : List String := ["state.", "item.", "action.", "asset:"]

end Reference

def isReference (s : String) : Bool :=
  Reference.markers.any fun m => (Text.dropPrefixText? m s).isSome

structure Scope where
  state : KeyMap Value
  context : Context
  assets : AssetTable := {}

namespace Scope

/-- What a reference points at; nothing there gives the null value. Without a current item the
first row of the context is taken. -/
def lookup (scope : Scope) (current : Option Item) : Reference → Value
  | .state key => (scope.state.get? key).getD .null
  | .item key => ((current.or scope.context.firstItem?).bind (·.get? key)).getD .null
  | .data key => (scope.context.data.get? key).getD .null
  | .targetId => (scope.context.targetId.map Value.text).getD .null
  | .asset path =>
    ((scope.assets.get? path).map fun bytes => Value.text (Text.Base64.encode bytes)).getD .null

def resolve (scope : Scope) (current : Option Item) (raw : Value) : Value :=
  match raw with
  | .text s =>
    match Reference.ofText? s with
    | some r => scope.lookup current r
    | none => raw
  | _ => raw

end Scope
end PluginFlow
