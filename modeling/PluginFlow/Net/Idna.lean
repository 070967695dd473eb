import PluginFlow.Net.Idna.Label
import PluginFlow.Net.Punycode
import PluginFlow.Text.Ascii

/-!
Host names as ASCII texts. Characters are replaced by what they stand for, the name is composed and
cut at its full stops, each label is checked, and labels outside ASCII get an encoded form behind
`xn--`. A name of ASCII characters without encoded labels is only put into lower case.
-/

namespace PluginFlow.Net.Idna

def marker : List Char := ['x', 'n', '-', '-']

def splitOn {α : Type} [BEq α] (separator : α) : List α → List (List α)
  | [] => [[]]
  | x :: rest =>
    if x == separator then [] :: splitOn separator rest
    else match splitOn separator rest with
      | part :: parts => (x :: part) :: parts
      | [] => [[x]]

def joinLabels (labels : List (List Char)) : List Char :=
  ['.'].intercalate labels

def isAscii (c : Char) : Bool := c.toNat < 128

def isPlain (name : List Char) : Bool :=
  name.all isAscii && !(splitOn '.' (name.map Text.lowerChar)).any marker.isPrefixOf

def mapAll? : List Nat → Option (List Nat)
  | [] => some []
  | c :: rest => do
    let cs ← mapped? c
    return cs ++ (← mapAll? rest)

/-- The longest encoded label that is read, and the longest label that is encoded. -/
def longestEncoded : Nat := 2000

def longestDecoded : Nat := 1000

def label? (label : List Nat) : Option (List Nat) :=
  match Text.dropPrefix? (marker.map Char.toNat) label with
  | none => if labelAllowed label then some label else none
  | some tail =>
    if longestEncoded < tail.length ∨ tail.any (128 ≤ ·) then none
    else
      match Punycode.decode? (tail.map Char.ofNat) with
      | none => none
      | some cs => if !cs.all (· < 128) && labelAllowed cs then some cs else none

def asciiLabel? (label : List Nat) : Option (List Char) :=
  if label.all (· < 128) then some (label.map Char.ofNat)
  else if longestDecoded < label.length then none
  else some (marker ++ Punycode.encode label)

def mappedName? (name : List Char) : Option (List Char) := do
  let cs ← mapAll? (name.map Char.toNat)
  let labels ← (splitOn 0x2E (Text.Composition.normalize cs)).mapM label?
  if labels.any (·.any isLeftward) && !labels.all directionsAgree then none
  else joinLabels <$> labels.mapM asciiLabel?

def toAscii? (name : List Char) : Option (List Char) :=
  if isPlain name then some (name.map Text.lowerChar) else mappedName? name

end PluginFlow.Net.Idna
