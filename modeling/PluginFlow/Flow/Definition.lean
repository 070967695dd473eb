import PluginFlow.Value

/-!
Flows as plugin authors write them: a graph of nodes and the triggers that enter it. Ids may be
repeated; the last node with an id is the one found under it.
-/

namespace PluginFlow

inductive TriggerType
  | onClick
  | onLoad
  | onTimer
  | onMessage
  | other (name : String)
  deriving DecidableEq

namespace TriggerType

def name : TriggerType → String
  | onClick => "OnClick"
  | onLoad => "OnLoad"
  | onTimer => "OnTimer"
  | onMessage => "OnMessage"
  | other name => name

def ofName (name : String) : TriggerType :=
  if name = "OnClick" then onClick
  else if name = "OnLoad" then onLoad
  else if name = "OnTimer" then onTimer
  else if name = "OnMessage" then onMessage
  else other name

@[simp] theorem name_ofName (s : String) : (ofName s).name = s := by
  unfold ofName
  split
  · simp [name, *]
  · split
    · simp [name, *]
    · split
      · simp [name, *]
      · split <;> simp [name, *]

def isUi : TriggerType → Bool
  | onTimer => false
  | onMessage => false
  | _ => true

end TriggerType

structure Trigger where
  type : TriggerType
  targetId : Option String := none
  messageType : Option String := none
  startNodeId : String
  deriving DecidableEq

structure Node where
  id : String
  type : String
  params : KeyMap Value := .empty
  next : Option String := none
  nextTrue : Option String := none
  nextFalse : Option String := none
  deriving DecidableEq

def nonBlank (id : String) : Option String :=
  if Text.isBlankText id then none else some id

/-- The nodes that a node refers to; blank references lead nowhere. -/
def Node.successors (n : Node) : List String :=
  [n.next, n.nextTrue, n.nextFalse].filterMap fun id => id.bind nonBlank

structure Flow where
  id : String
  triggers : List Trigger := []
  nodes : List Node := []
  deriving DecidableEq

namespace Flow

instance : Inhabited Flow := ⟨{ id := "" }⟩

/-- The last of some nodes with an id. -/
def findNode? (id : String) : List Node → Option Node
  | [] => none
  | n :: rest => (findNode? id rest).or (if n.id = id then some n else none)

def node? (f : Flow) (id : String) : Option Node := findNode? id f.nodes

def nodeIds (f : Flow) : List String := f.nodes.map (·.id)

def nodeMap (f : Flow) : KeyMap Node := KeyMap.ofList (f.nodes.map fun n => (n.id, n))

theorem findNode?_isSome_iff {id : String} {nodes : List Node} :
    (findNode? id nodes).isSome = true ↔ id ∈ nodes.map (·.id) := by
  induction nodes with
  | nil => simp [findNode?]
  | cons n rest ih =>
    simp only [findNode?, Option.isSome_or, Bool.or_eq_true, ih, List.map_cons, List.mem_cons]
    by_cases h : n.id = id
    · simp [h]
    · simp [h, Ne.symm h]

theorem node?_isSome_iff {f : Flow} {id : String} : (f.node? id).isSome = true ↔ id ∈ f.nodeIds :=
  findNode?_isSome_iff

end Flow
end PluginFlow
