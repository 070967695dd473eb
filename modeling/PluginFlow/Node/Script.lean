import PluginFlow.Audit.Journal
import PluginFlow.Run.Fault

/-!
What a node does, one step after the other. Every step is done at once, so what was changed before
a step that fails stays changed; nothing here keeps a node from changing first and failing later.
-/

namespace PluginFlow

inductive Note
  | log (l : Log)
  | event (e : Audit.Event)
  deriving DecidableEq

inductive Script (α : Type)
  | done (a : α)
  | fail (f : NodeFault)
  | note (n : Note) (rest : Script α)
  /-- Changes what the state holds under a key, looking at the value that is there. -/
  | update (key : String) (change : Option Value → Value) (rest : Script α)
  | rows (change : List Item → List Item) (rest : Script α)
  /-- Calls the platform and goes on with its answer; without one the node fails. -/
  | ask (c : Call) (rest : c.Answer → Script α)

namespace Script

variable {α β : Type}

def bind (k : α → Script β) : Script α → Script β
  | done a => k a
  | fail f => fail f
  | note n rest => note n (bind k rest)
  | update key change rest => update key change (bind k rest)
  | rows change rest => rows change (bind k rest)
  | ask c rest => ask c fun a => bind k (rest a)

instance : Monad Script where
  pure := done
  bind m k := bind k m

def say (n : Note) : Script Unit := note n (done ())

def modify (key : String) (change : Option Value → Value) : Script Unit :=
  update key change (done ())

def set (key : String) (v : Value) : Script Unit := modify key fun _ => v

def modifyRows (change : List Item → List Item) : Script Unit := rows change (done ())

def call (c : Call) : Script c.Answer := ask c done

def require : Except NodeFault α → Script α
  | .ok a => done a
  | .error f => fail f

def unwrap : Option α → Script α
  | some a => done a
  | none => fail .broken

end Script
end PluginFlow
