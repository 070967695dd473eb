/-!
Tables of character properties as short texts. A digit is one of sixty-four letters; the first
thirty-two end a number and the others go on, least digit first. A property is a list of runs of
neighbouring characters with one value.
-/

namespace PluginFlow.Text.Packed

def digitValue (c : Char) : Nat :=
  let n := c.toNat
  if 'A' ≤ c ∧ c ≤ 'Z' then n - 65
  else if 'a' ≤ c ∧ c ≤ 'z' then n - 71
  else if '0' ≤ c ∧ c ≤ '9' then n + 4
  else if c = '+' then 62
  else 63

/-- Reads numbers after digits that are worth `value` already; the next one counts `scale`. -/
def numbersFrom (scale value : Nat) : List Char → List Nat
  | [] => []
  | c :: rest =>
    let d := digitValue c
    if d < 32 then (value + scale * d) :: numbersFrom 1 0 rest
    else numbersFrom (scale * 32) (value + scale * (d - 32)) rest

def numbers (lines : List String) : List Nat := numbersFrom 1 0 (lines.flatMap (·.toList))

def signed (n : Nat) : Int :=
  if n % 2 = 0 then (n / 2 : Nat) else -((n / 2 : Nat) : Int) - 1

structure Run where
  first : Nat
  last : Nat
  value : Nat
  deriving DecidableEq, Repr

/-- Runs from triples: the characters left out, the further characters of the run, the value. -/
def runsFrom (next : Nat) : List Nat → List Run
  | gap :: more :: value :: rest =>
    let first := next + gap
    ⟨first, first + more, value⟩ :: runsFrom (first + more + 1) rest
  | _ => []

def runs (lines : List String) : List Run := runsFrom 0 (numbers lines)

def valueIn (runs : List Run) (c : Nat) : Nat :=
  match runs.find? fun r => r.first ≤ c && c ≤ r.last with
  | some r => r.value
  | none => 0

end PluginFlow.Text.Packed
