import PluginFlow.Text.Ascii
import PluginFlow.Text.Hidden

/-!
Texts between quotation marks, as they are shown inside messages. A backslash stands before the
quotation mark and the backslash; line ends, tabs and NUL have letters of their own. Characters
that cannot be shown by themselves are shown by number.
-/

namespace PluginFlow.Text

def hexText (n : Nat) : List Char := Nat.toDigits 16 n

def isShown (c : Char) : Bool :=
  (0x20 ≤ c.toNat && c.toNat < 0x7F) || !(isShapeless c || isAttached c)

def quotedChar (c : Char) : List Char :=
  if c = '"' ∨ c = '\\' then ['\\', c]
  else if c = '\n' then ['\\', 'n']
  else if c = '\r' then ['\\', 'r']
  else if c = '\t' then ['\\', 't']
  else if c.toNat = 0 then ['\\', '0']
  else if isShown c then [c]
  else ['\\', 'u', '\x7b'] ++ hexText c.toNat ++ ['\x7d']

def quoted (s : String) : String :=
  String.ofList ('"' :: s.toList.flatMap quotedChar ++ ['"'])

def quotedList (ss : List String) : String :=
  "[" ++ ", ".intercalate (ss.map quoted) ++ "]"

end PluginFlow.Text
