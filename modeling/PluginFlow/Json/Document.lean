import PluginFlow.Number.Layout
import PluginFlow.Text.Ascii

/-!
JSON documents and their two written forms. The compact form has no blanks; the indented form has
one item or member a line, each level two blanks further in.
-/

namespace PluginFlow.Json

inductive Document
  | null
  | bool (b : Bool)
  | number (n : Number)
  | integer (i : Int)
  | text (s : String)
  | array (items : List Document)
  | object (members : List (String × Document))

instance : Inhabited Document := ⟨.null⟩

def escapedChar (c : Char) : List Char :=
  if c = '"' then ['\\', '"']
  else if c = '\\' then ['\\', '\\']
  else if c.toNat = 8 then ['\\', 'b']
  else if c.toNat = 12 then ['\\', 'f']
  else if c = '\n' then ['\\', 'n']
  else if c = '\r' then ['\\', 'r']
  else if c = '\t' then ['\\', 't']
  else if c.toNat < 0x20 then ['\\', 'u', '0', '0'] ++ Text.hexByte c.toNat.toUInt8
  else [c]

def quoteText (s : String) : String :=
  String.ofList ('"' :: s.toList.flatMap escapedChar ++ ['"'])

def boolText (b : Bool) : String := if b then "true" else "false"

namespace Document

mutual

def compact : Document → String
  | .null => "null"
  | .bool b => boolText b
  | .number n => n.write .json
  | .integer i => Number.intText i
  | .text s => quoteText s
  | .array items => "[" ++ ",".intercalate (compactItems items) ++ "]"
  | .object members => "\x7b" ++ ",".intercalate (compactMembers members) ++ "\x7d"

def compactItems : List Document → List String
  | [] => []
  | d :: rest => d.compact :: compactItems rest

def compactMembers : List (String × Document) → List String
  | [] => []
  | (k, d) :: rest => (quoteText k ++ ":" ++ d.compact) :: compactMembers rest

end

def newLine (level : Nat) : String :=
  String.ofList ('\n' :: List.replicate (2 * level) ' ')

/-- Parts on lines of their own between two brackets; no parts, no lines. -/
def block (level : Nat) (opening closing : String) (parts : List String) : String :=
  if parts.isEmpty then opening ++ closing
  else
    opening ++ newLine (level + 1) ++ ("," ++ newLine (level + 1)).intercalate parts ++
      newLine level ++ closing

mutual

def indentedAt : Nat → Document → String
  | _, .null => "null"
  | _, .bool b => boolText b
  | _, .number n => n.write .json
  | _, .integer i => Number.intText i
  | _, .text s => quoteText s
  | level, .array items => block level "[" "]" (indentedItems (level + 1) items)
  | level, .object members => block level "\x7b" "\x7d" (indentedMembers (level + 1) members)

def indentedItems : Nat → List Document → List String
  | _, [] => []
  | level, d :: rest => indentedAt level d :: indentedItems level rest

def indentedMembers : Nat → List (String × Document) → List String
  | _, [] => []
  | level, (k, d) :: rest =>
    (quoteText k ++ ": " ++ indentedAt level d) :: indentedMembers level rest

end

def indented (d : Document) : String := indentedAt 0 d

def optional {α : Type} (key : String) (value : Option α) (form : α → Document) :
    List (String × Document) :=
  match value with
  | some x => [(key, form x)]
  | none => []

end Document

end PluginFlow.Json
