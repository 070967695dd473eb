import PluginFlow.Catalog.Spec
import PluginFlow.Value.Form

/-!
The JSON form of node types, params and grants.
-/

namespace PluginFlow

open Json (Document Reader)

namespace SideEffect

def reader : Reader SideEffect := Reader.variant (all.map fun e => (e.name, e))

end SideEffect

namespace EffectSet

def toDocument (s : EffectSet) : Document := .array (s.toList.map fun e => .text e.name)

def reader : Reader EffectSet := fun depth d => ofList <$> Reader.list SideEffect.reader depth d

end EffectSet

namespace Grants

def toDocument (g : Grants) : Document := .object [("sideEffects", g.sideEffects.toDocument)]

structure Draft where
  sideEffects : Option EffectSet := none

def slots : List (Reader.Slot Draft) :=
  [Reader.slot "sideEffects" false EffectSet.reader (·.sideEffects)
    fun p v => { p with sideEffects := some v }]

def Draft.finish (p : Draft) : Grants := ⟨p.sideEffects.getD .empty⟩

def reader : Reader Grants := Reader.record "Grants" slots {} Draft.finish

end Grants

namespace ParamType

def reader : Reader ParamType := Reader.variant (all.map fun t => (t.name, t))

end ParamType

namespace ParamSpec

def toDocument (s : ParamSpec) : Document :=
  .object <|
    [("key", .text s.key), ("paramType", .text s.type.name), ("required", .bool s.required)] ++
      Document.optional "defaultValue" s.defaultValue Value.toDocument ++
      Document.optional "min" s.min .number ++ Document.optional "max" s.max .number ++
      Document.optional "maxLength" s.maxLength (fun n => .integer n) ++
      (if s.allowedValues.isEmpty then []
        else [("allowedValues", .array (s.allowedValues.map .text))])

structure Draft where
  key : Option String := none
  type : Option ParamType := none
  required : Option Bool := none
  defaultValue : Option (Option Value) := none
  min : Option (Option Number) := none
  max : Option (Option Number) := none
  maxLength : Option (Option Nat) := none
  allowedValues : Option (List String) := none

def slots : List (Reader.Slot Draft) :=
  [Reader.slot "key" true Reader.text (·.key) fun p v => { p with key := some v },
    Reader.slot "paramType" true ParamType.reader (·.type) fun p v => { p with type := some v },
    Reader.slot "required" false Reader.bool (·.required) fun p v => { p with required := some v },
    Reader.slot "defaultValue" false (Reader.optional Value.reader) (·.defaultValue)
      fun p v => { p with defaultValue := some v },
    Reader.slot "min" false (Reader.optional Reader.number) (·.min)
      fun p v => { p with min := some v },
    Reader.slot "max" false (Reader.optional Reader.number) (·.max)
      fun p v => { p with max := some v },
    Reader.slot "maxLength" false (Reader.optional Reader.count) (·.maxLength)
      fun p v => { p with maxLength := some v },
    Reader.slot "allowedValues" false (Reader.list Reader.text) (·.allowedValues)
      fun p v => { p with allowedValues := some v }]

def Draft.finish (p : Draft) : ParamSpec :=
  { key := p.key.getD "", type := p.type.getD .any, required := p.required.getD false,
    defaultValue := p.defaultValue.getD none, min := p.min.getD none, max := p.max.getD none,
    maxLength := p.maxLength.getD none, allowedValues := p.allowedValues.getD [] }

def reader : Reader ParamSpec := Reader.record "ParamSpec" slots {} Draft.finish

end ParamSpec

namespace NodeSpec

def toDocument (s : NodeSpec) : Document :=
  .object [("type", .text s.type), ("displayName", .text s.displayName),
    ("params", .array (s.params.map ParamSpec.toDocument)),
    ("sideEffects", s.sideEffects.toDocument)]

structure Draft where
  type : Option String := none
  displayName : Option String := none
  params : Option (List ParamSpec) := none
  sideEffects : Option EffectSet := none

def slots : List (Reader.Slot Draft) :=
  [Reader.slot "type" true Reader.text (·.type) fun p v => { p with type := some v },
    Reader.slot "displayName" true Reader.text (·.displayName)
      fun p v => { p with displayName := some v },
    Reader.slot "params" false (Reader.list ParamSpec.reader) (·.params)
      fun p v => { p with params := some v },
    Reader.slot "sideEffects" false EffectSet.reader (·.sideEffects)
      fun p v => { p with sideEffects := some v }]

def Draft.finish (p : Draft) : NodeSpec :=
  { type := p.type.getD "", displayName := p.displayName.getD "", params := p.params.getD [],
    sideEffects := p.sideEffects.getD .empty }

def reader : Reader NodeSpec := Reader.record "NodeSpec" slots {} Draft.finish

end NodeSpec
end PluginFlow
