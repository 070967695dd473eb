import PluginFlow.Effect
import PluginFlow.Value

/-!
What a node type takes and may do: its params with their types and bounds, and its side effects.
-/

namespace PluginFlow

inductive ParamType
  | any
  | string
  | boolean
  | long
  | double
  | enum
  deriving DecidableEq, Repr

namespace ParamType

def all : List ParamType := [any, string, boolean, long, double, enum]

def name : ParamType → String
  | any => "Any"
  | string => "String"
  | boolean => "Boolean"
  | long => "Long"
  | double => "Double"
  | enum => "Enum"

end ParamType

/-- The declaration of one param. Bounds hold for numbers, a greatest length for texts, allowed
values for enums. -/
structure ParamSpec where
  key : String
  type : ParamType
  required : Bool := false
  defaultValue : Option Value := none
  min : Option Number := none
  max : Option Number := none
  maxLength : Option Nat := none
  allowedValues : List String := []
  deriving DecidableEq

structure NodeSpec where
  type : String
  displayName : String
  params : List ParamSpec := []
  sideEffects : EffectSet := {}
  deriving DecidableEq

namespace NodeSpec

def param? (s : NodeSpec) (key : String) : Option ParamSpec := s.params.find? (·.key == key)

def default? (s : NodeSpec) (key : String) : Option Value := (s.param? key).bind (·.defaultValue)

end NodeSpec

abbrev Registry := KeyMap NodeSpec

namespace Registry

def empty : Registry := KeyMap.empty

/-- Adds a type, in place of one with the same name. -/
def register (r : Registry) (s : NodeSpec) : Registry := r.insert s.type s

def ofList (specs : List NodeSpec) : Registry := specs.foldl register empty

def spec? (r : Registry) (type : String) : Option NodeSpec := r.get? type

def default? (r : Registry) (type key : String) : Option Value :=
  (r.spec? type).bind (·.default? key)

/-- The side effects of a type; a type that is not registered has none. -/
def sideEffects (r : Registry) (type : String) : EffectSet :=
  ((r.spec? type).map (·.sideEffects)).getD .empty

end Registry
end PluginFlow
