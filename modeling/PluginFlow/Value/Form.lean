import PluginFlow.Json.Document
import PluginFlow.Json.Reader
import PluginFlow.Value

/-!
The JSON form of values and of maps of values.
-/

namespace PluginFlow

open Json (Document Reader Draft)

namespace Value

def toDocument : Value → Document
  | null => .null
  | bool b => .bool b
  | number n => .number n
  | text s => .text s

/-- Reads a scalar. A value that is no scalar is read to its end before it is refused. -/
def reader : Reader Value
  | depth, d => do
    d.keepFault depth
    match d with
    | .null => return null
    | .bool b => return bool b
    | .number n => return number (← Reader.numeral n)
    | .text q => return text (← Reader.quote q)
    | _ => .error (.noVariant "Value")

end Value

namespace KeyMap

def toDocument {α : Type} (form : α → Document) (m : KeyMap α) : Document :=
  .object (m.entries.map fun e => (e.1, form e.2))

end KeyMap

def itemDocument (m : Item) : Document := m.toDocument Value.toDocument

def itemReader : Reader Item := Reader.keyMap Value.reader

end PluginFlow
