import PluginFlow.KeyMap
import PluginFlow.Number.Layout
import PluginFlow.Number.Numeral
import PluginFlow.Text.Blank

/-!
Scalar values of params, state and rows, with the views that other parts take of them.
Texts are read as numbers and truth values where that makes sense; nothing else is.
-/

namespace PluginFlow

inductive Value
  | null
  | bool (b : Bool)
  | number (n : Number)
  | text (s : String)
  deriving DecidableEq

abbrev Item := KeyMap Value

/-- The truth value of a text: `true`, `1`, `yes`, `false`, `0` or `no` in any ASCII case. -/
def truthOfText? (s : String) : Option Bool :=
  let word := Text.lower (Text.trim s)
  if word = "true" ∨ word = "1" ∨ word = "yes" then some true
  else if word = "false" ∨ word = "0" ∨ word = "no" then some false
  else none

def numberOfText? (s : String) : Option Number :=
  (Number.decimal? (Text.trim s).toList).filter (·.isFinite)

/-- The integer that a text spells: exact when it is written as an integer of sixty-four bits,
else the integer part of the number it spells. -/
def integerOfText? (s : String) : Option Int :=
  let exact := (Number.integer? (Text.trim s).toList).filter fun i =>
    Number.minInt64 ≤ i && i ≤ Number.maxInt64
  exact.or ((numberOfText? s).bind (·.toInt64?))

namespace Value

instance : Inhabited Value := ⟨null⟩

def isNull : Value → Bool
  | null => true
  | _ => false

def asText? : Value → Option String
  | text s => some s
  | _ => none

def asNumber? : Value → Option Number
  | number n => some n
  | text s => numberOfText? s
  | _ => none

def asInteger? : Value → Option Int
  | number n => n.toInt64?
  | text s => integerOfText? s
  | _ => none

def asBool? : Value → Option Bool
  | bool b => some b
  | number n => some (!n.equals .zero)
  | text s => truthOfText? s
  | null => none

def integerBound : Nat := 1000000000000000

def numberText (n : Number) : String :=
  match n with
  | .finite _ units _ =>
    if n.isIntegral && units < integerBound * Number.unit then
      Number.intText (n.truncate?.getD 0)
    else n.plainText
  | _ => n.plainText

def toText : Value → String
  | null => ""
  | bool b => if b then "true" else "false"
  | number n => numberText n
  | text s => s

def agrees : Value → Value → Bool
  | null, null => true
  | bool a, bool b => a == b
  | number a, number b => a.equals b
  | text a, text b => a == b
  | _, _ => false

def agreesOptional : Option Value → Option Value → Bool
  | none, none => true
  | some a, some b => a.agrees b
  | _, _ => false

def ofInt (i : Int) : Value := number (Number.ofInt i)

end Value
end PluginFlow
