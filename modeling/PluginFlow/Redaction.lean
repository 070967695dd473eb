import PluginFlow.Config.Settings

/-!
What the audit trail may show of values. Values under a sensitive key are replaced; every other
value is shown by its text, cut at a greatest length.
-/

namespace PluginFlow

structure FieldChange where
  key : String
  before : Option String
  after : Option String
  deriving DecidableEq

structure Redactor where
  maxValueLen : Nat
  sensitiveKeys : List String := []
  deriving DecidableEq

namespace Redactor

def redacted : String := "<redacted>"

def ellipsis : Char := '…'

/-- Parts of keys that make them sensitive in any ASCII case. -/
def sensitiveParts : List String := ["image", "body", "base64"]

def ofSettings (s : RedactionSettings) : Redactor := { maxValueLen := s.maxValueLen }

def withSensitiveKey (r : Redactor) (key : String) : Redactor :=
  { r with sensitiveKeys := key :: r.sensitiveKeys }

def isSensitive (r : Redactor) (key : String) : Bool :=
  key ∈ r.sensitiveKeys || sensitiveParts.any (Text.contains (Text.lower key) ·)

/-- At most the greatest number of characters, then the ellipsis if any are left. -/
def truncate (r : Redactor) (text : String) : String :=
  let cs := text.toList
  if cs.length ≤ r.maxValueLen then text
  else String.ofList (cs.take r.maxValueLen ++ [ellipsis])

def redact (r : Redactor) (key : String) (v : Value) : String :=
  if r.isSensitive key then redacted else r.truncate v.toText

def redactWith (r : Redactor) (extra : List String) (key : String) (v : Value) : String :=
  if key ∈ extra then redacted else r.redact key v

def mergeKeys : List String → List String → List String
  | [], ys => ys
  | xs, [] => xs
  | x :: xs, y :: ys =>
    if x < y then x :: mergeKeys xs (y :: ys)
    else if x = y then x :: mergeKeys xs ys
    else y :: mergeKeys (x :: xs) ys
termination_by xs ys => xs.length + ys.length

/-- The keys whose values do not agree, in order, with what may be shown of both values. -/
def diff (r : Redactor) (before after : KeyMap Value) (extra : List String) : List FieldChange :=
  ((mergeKeys before.keys after.keys).filter fun k =>
      !Value.agreesOptional (before.get? k) (after.get? k)).map fun k =>
    { key := k, before := (before.get? k).map (r.redactWith extra k),
      after := (after.get? k).map (r.redactWith extra k) }

end Redactor
end PluginFlow
