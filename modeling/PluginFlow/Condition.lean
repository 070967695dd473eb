import PluginFlow.Reference

/-!
Comparisons of two values. Two values that both read as numbers are compared as numbers, so that
`10` is greater than `9` as texts too; all others are compared by their texts, and only for
equality and for containing one another.
-/

namespace PluginFlow

inductive Operator
  | equal
  | notEqual
  | greater
  | atLeast
  | less
  | atMost
  | contains
  deriving DecidableEq, Repr

namespace Operator

def ofText? (s : String) : Option Operator :=
  if s = "==" then some equal
  else if s = "!=" then some notEqual
  else if s = ">" then some greater
  else if s = ">=" then some atLeast
  else if s = "<" then some less
  else if s = "<=" then some atMost
  else if s = "contains" then some contains
  else none

def onNumbers (l r : Number) : Operator → Bool
  | equal => l.equals r
  | notEqual => !l.equals r
  | greater => r.less l
  | atLeast => r.atMost l
  | less => l.less r
  | atMost => l.atMost r
  | contains => false

def onTexts (l r : String) : Operator → Bool
  | equal => l == r
  | notEqual => l != r
  | contains => Text.contains l r
  | _ => false

end Operator

/-- Compares two values. An operator of another name holds of nothing. -/
def compareValues (left : Value) (op : String) (right : Value) : Bool :=
  match Operator.ofText? op with
  | none => false
  | some o =>
    match left.asNumber?, right.asNumber? with
    | some l, some r => o.onNumbers l r
    | _, _ => o.onTexts left.toText right.toText

def evaluate (scope : Scope) (current : Option Item) (left : Value) (op : String)
    (right : Value) : Bool :=
  compareValues (scope.resolve current left) (Text.trim op) (scope.resolve current right)

end PluginFlow
