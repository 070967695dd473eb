import PluginFlow.Node.Turn

/-!
Nodes that compute: branching, changing and keeping rows, and writing single values to the state.
They ask nothing of the platform.
-/

namespace PluginFlow

namespace Turn

def holds (t : Turn) (current : Option Item) : Bool :=
  evaluate t.scope current (t.param "left") (t.textParam "op" "==") (t.param "right")

/-- The value that a node puts into a row: what its param stands for, a text with its placeholders
filled. -/
def rowValue (t : Turn) (row : Item) : Value :=
  match t.scope.resolve (some row) (t.param "value") with
  | .text s => .text (t.fill s)
  | v => v

def setRows (t : Turn) (field : String) (rows : List Item) : List Item :=
  rows.map fun row => row.insert field (t.rowValue row)

def keptRows (t : Turn) (rows : List Item) : List Item := rows.filter fun row => t.holds (some row)

/-- The number that a node adds: one unless a param stands for a number. -/
def increase (t : Turn) : Number :=
  (t.resolve ((t.param? "delta").getD (.ofInt 1))).asNumber?.getD (Number.ofNat 1)

end Turn

namespace Handler

def ifElse (t : Turn) : Script (Option String) :=
  return if t.holds t.firstItem? then t.node.nextTrue else t.node.nextFalse

/-- Sets a field in every row; without rows it starts with an empty one. -/
def setField (t : Turn) : Script (Option String) := do
  let field ← .require (t.required "field")
  .modifyRows fun rows => if rows.isEmpty then [.empty] else rows
  .modifyRows (t.setRows field.toText)
  return t.node.next

def filter (t : Turn) : Script (Option String) := do
  .modifyRows t.keptRows
  return t.node.next

def setState (t : Turn) : Script (Option String) := do
  let key ← .require (t.required "key")
  .set key.toText (t.resolve (t.param "value"))
  return t.node.next

/-- Adds to a number in the state, zero standing for anything else. -/
def increment (t : Turn) : Script (Option String) := do
  let key ← .require (t.required "key")
  .modify key.toText fun current =>
    .number (((current.bind Value.asNumber?).getD .zero).add t.increase)
  return t.node.next

end Handler
end PluginFlow
