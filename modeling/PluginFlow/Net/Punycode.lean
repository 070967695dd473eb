/-!
Labels with characters outside ASCII as ASCII texts. The ASCII characters come first; each other
character is a number that tells how far the place and the value move on from the one before,
written in digits whose worth adapts to the numbers so far.
-/

namespace PluginFlow.Net.Punycode

def digitChar (d : Nat) : Char :=
  if d < 26 then Char.ofNat (97 + d) else Char.ofNat (48 + d - 26)

def digitValue? (c : Char) : Option Nat :=
  if 'a' ≤ c ∧ c ≤ 'z' then some (c.toNat - 97)
  else if 'A' ≤ c ∧ c ≤ 'Z' then some (c.toNat - 65)
  else if '0' ≤ c ∧ c ≤ '9' then some (c.toNat - 48 + 26)
  else none

/-- The least value that does not end a number at a digit's place. -/
def threshold (place bias : Nat) : Nat :=
  if place ≤ bias then 1 else if bias + 26 ≤ place then 26 else place - bias

theorem threshold_pos (place bias : Nat) : 1 ≤ threshold place bias := by
  unfold threshold
  split
  · omega
  · split <;> omega

theorem threshold_le (place bias : Nat) : threshold place bias ≤ 26 := by
  unfold threshold
  split
  · omega
  · split <;> omega

/-- Divides until at most 455 is left, counting thirty-six each time. -/
def settle (delta count : Nat) : Nat × Nat :=
  if 455 < delta then settle (delta / 35) (count + 36) else (delta, count)
termination_by delta
decreasing_by exact Nat.div_lt_self (by omega) (by omega)

def adapt (delta count : Nat) (isFirst : Bool) : Nat :=
  let d := if isFirst then delta / 700 else delta / 2
  let (d, k) := settle (d + d / count) 0
  k + 36 * d / (d + 38)

def digits (bias place n : Nat) : List Char :=
  let t := threshold place bias
  if n < t then [digitChar n]
  else digitChar (t + (n - t) % (36 - t)) :: digits bias (place + 36) ((n - t) / (36 - t))
termination_by n
decreasing_by
  have := threshold_pos place bias
  have := threshold_le place bias
  exact Nat.lt_of_le_of_lt (Nat.div_le_self _ _) (by omega)

structure Writing where
  out : List Char
  delta : Nat
  bias : Nat
  done : Nat

/-- Passes one character while those with the value `level` are written. -/
def Writing.pass (basic level : Nat) (w : Writing) (c : Nat) : Writing :=
  if c < level then { w with delta := w.delta + 1 }
  else if c = level then
    { out := w.out ++ digits w.bias 36 w.delta, delta := 0,
      bias := adapt w.delta (w.done + 1) (w.done == basic), done := w.done + 1 }
  else w

def writeLevels (label : List Nat) (basic : Nat) : List Nat → Nat → Writing → Writing
  | [], _, w => w
  | level :: levels, reached, w =>
    let w := { w with delta := w.delta + (level - reached) * (w.done + 1) }
    let w := label.foldl (Writing.pass basic level) w
    writeLevels label basic levels (level + 1) { w with delta := w.delta + 1 }

def levels (label : List Nat) : List Nat :=
  ((label.filter (128 ≤ ·)).mergeSort (· ≤ ·)).eraseDups

def encode (label : List Nat) : List Char :=
  let basic := label.filter (· < 128)
  let start := basic.map Char.ofNat ++ (if basic.isEmpty then [] else ['-'])
  (writeLevels label basic.length (levels label) 128 ⟨start, 0, 72, basic.length⟩).out

def limit : Nat := Nat.pow 2 32

def takeNumber (bias : Nat) : Nat → Nat → Nat → List Char → Option (Nat × List Char)
  | _, _, _, [] => none
  | place, scale, value, c :: rest =>
    match digitValue? c with
    | none => none
    | some d =>
      if limit ≤ value + d * scale then none
      else if d < threshold place bias then some (value + d * scale, rest)
      else
        takeNumber bias (place + 36) (scale * (36 - threshold place bias)) (value + d * scale) rest

theorem length_of_takeNumber {bias place scale value n : Nat} {cs rest : List Char}
    (h : takeNumber bias place scale value cs = some (n, rest)) : rest.length < cs.length := by
  induction cs generalizing place scale value with
  | nil => simp [takeNumber] at h
  | cons c cs ih =>
    rw [takeNumber] at h
    split at h
    · cases h
    · split at h
      · cases h
      · split at h
        · simp only [Option.some.injEq, Prod.mk.injEq] at h
          simp [h.2]
        · exact Nat.lt_succ_of_lt (ih h)

def insertAt (i : Nat) (x : Nat) (xs : List Nat) : List Nat := xs.take i ++ x :: xs.drop i

def placeAll (value place bias : Nat) (label : List Nat) (cs : List Char) : Option (List Nat) :=
  match h : takeNumber bias 36 1 0 cs with
  | none => if cs.isEmpty then some label else none
  | some (n, rest) =>
    let count := label.length + 1
    let total := place + n
    let value := value + total / count
    if 0x110000 ≤ value ∨ (0xD800 ≤ value ∧ value < 0xE000) then none
    else
      let i := total % count
      placeAll value (i + 1) (adapt n count (place == 0)) (insertAt i value label) rest
termination_by cs.length
decreasing_by exact length_of_takeNumber h

def decode? (text : List Char) : Option (List Nat) :=
  let fromEnd := text.reverse
  let tail := (fromEnd.takeWhile (· ≠ '-')).reverse
  let head := ((fromEnd.dropWhile (· ≠ '-')).drop 1).reverse
  if head.all (·.toNat < 128) then placeAll 128 0 72 (head.map Char.toNat) tail else none

end PluginFlow.Net.Punycode
