import PluginFlow.Digest.Blake3
import PluginFlow.Text.Utf8

/-!
Classes of effects outside a run, and the grants that allow them.
-/

namespace PluginFlow

inductive SideEffect
  | storage
  | ui
  | messaging
  | camera
  | network
  deriving DecidableEq, Repr

namespace SideEffect

def all : List SideEffect := [storage, ui, messaging, camera, network]

def name : SideEffect → String
  | storage => "storage"
  | ui => "ui"
  | messaging => "messaging"
  | camera => "camera"
  | network => "network"

theorem mem_all (e : SideEffect) : e ∈ all := by cases e <;> decide

end SideEffect

structure EffectSet where
  storage : Bool := false
  ui : Bool := false
  messaging : Bool := false
  camera : Bool := false
  network : Bool := false
  deriving DecidableEq, Repr

namespace EffectSet

def empty : EffectSet := {}

instance : Inhabited EffectSet := ⟨empty⟩

def contains (s : EffectSet) : SideEffect → Bool
  | .storage => s.storage
  | .ui => s.ui
  | .messaging => s.messaging
  | .camera => s.camera
  | .network => s.network

def insert (s : EffectSet) : SideEffect → EffectSet
  | .storage => { s with storage := true }
  | .ui => { s with ui := true }
  | .messaging => { s with messaging := true }
  | .camera => { s with camera := true }
  | .network => { s with network := true }

def ofList (es : List SideEffect) : EffectSet := es.foldl insert empty

def toList (s : EffectSet) : List SideEffect := SideEffect.all.filter s.contains

@[simp] theorem contains_insert (s : EffectSet) (e x : SideEffect) :
    (s.insert e).contains x = (x == e || s.contains x) := by
  cases e <;> cases x <;> rfl

theorem mem_toList {s : EffectSet} {e : SideEffect} : e ∈ s.toList ↔ s.contains e = true := by
  simp [toList, SideEffect.mem_all]

theorem ofList_toList (s : EffectSet) : ofList s.toList = s := by
  obtain ⟨a, b, c, d, e⟩ := s
  cases a <;> cases b <;> cases c <;> cases d <;> cases e <;> rfl

end EffectSet

structure Grants where
  sideEffects : EffectSet := {}
  deriving DecidableEq, Repr

namespace Grants

def empty : Grants := {}

instance : Inhabited Grants := ⟨empty⟩

def all : Grants := ⟨EffectSet.ofList SideEffect.all⟩

def ofList (es : List SideEffect) : Grants := ⟨EffectSet.ofList es⟩

def grant (g : Grants) (e : SideEffect) : Grants := ⟨g.sideEffects.insert e⟩

def allows (g : Grants) (e : SideEffect) : Bool := g.sideEffects.contains e

def missing (g : Grants) (required : List SideEffect) : List SideEffect :=
  required.filter (!g.allows ·)

def hash (g : Grants) : String :=
  Digest.Blake3.hexDigest (g.sideEffects.toList.flatMap fun e => Text.Utf8.encode (e.name ++ "\n"))

theorem mem_missing {g : Grants} {required : List SideEffect} {e : SideEffect} :
    e ∈ g.missing required ↔ e ∈ required ∧ g.allows e = false := by
  simp [missing]

end Grants
end PluginFlow
