import PluginFlow.KeyMap
import PluginFlow.Json.Fault
import PluginFlow.Json.Numeral

/-!
Readers of shapes. A reader takes a draft and the number of containers already open around it,
and gives a value or the first fault in text order.
-/

namespace PluginFlow.Json

abbrev Reader (α : Type) := Nat → Draft → Except Fault α

def depthLimit : Nat := 127

namespace Reader

variable {α β σ : Type}

def stopping (s : Stop) : Except Fault α := .error (.stop s)

def closing (ending : Option Stop) : Except Fault Unit :=
  match ending with
  | none => .ok ()
  | some s => stopping s

def deeper (depth : Nat) : Except Fault Nat :=
  if depth < depthLimit then .ok (depth + 1) else stopping .malformed

def quote (q : Quote) : Except Fault String :=
  match q.read with
  | .ok s => .ok s
  | .error s => stopping s

def numeral (n : Numeral) : Except Fault Number :=
  match n.number? with
  | some x => .ok x
  | none => stopping .malformed

def mismatch (expected : String) : Draft → Except Fault α
  | .nothing s => stopping s
  | .brokenWord s => stopping s
  | .brokenNumber s => stopping s
  | .null => .error (.wrongKind .null expected)
  | .bool b => .error (.wrongKind (.bool b) expected)
  | .number n => do
    match n.integer? with
    | some i => .error (.wrongKind (.integer i) expected)
    | none => .error (.wrongKind (.decimal (← numeral n)) expected)
  | .text q => do .error (.wrongKind (.text (← quote q)) expected)
  | .array .. => .error (.wrongKind .sequence expected)
  | .object .. => .error (.wrongKind .map expected)

def text : Reader String
  | _, .text q => quote q
  | _, d => mismatch "a string" d

def bool : Reader Bool
  | _, .bool b => .ok b
  | _, d => mismatch "a boolean" d

def number : Reader Number
  | _, .number n => numeral n
  | _, d => mismatch "f64" d

/-- A whole number below `limit`, called `name` in faults. -/
def natural (name : String) (limit : Nat) : Reader Nat
  | _, .number n =>
    match n.integer? with
    | some i =>
      if 0 ≤ i ∧ i < limit then .ok i.toNat else .error (.outOfRange i name)
    | none => mismatch name (.number n)
  | _, d => mismatch name d

def word : Reader Nat := natural "u32" (Nat.pow 2 32)

def longWord : Reader Nat := natural "u64" (Nat.pow 2 64)

def count : Reader Nat := natural "usize" (Nat.pow 2 64)

def optional (r : Reader α) : Reader (Option α)
  | _, .null => .ok none
  | depth, d => some <$> r depth d

def items (r : Reader α) (depth : Nat) (ending : Option Stop) : List Draft → Except Fault (List α)
  | [] => do
    closing ending
    return []
  | d :: rest => do
    let x ← r depth d
    return x :: (← items r depth ending rest)

def list (r : Reader α) : Reader (List α)
  | depth, .array ds ending => do items r (← deeper depth) ending ds
  | _, d => mismatch "a sequence" d

def key : Draft → Except Fault String
  | .text q => quote q
  | .nothing s => stopping s
  | _ => stopping .malformed

def members (r : Reader α) (depth : Nat) (ending : Option Stop) :
    KeyMap α → List (Draft × Draft) → Except Fault (KeyMap α)
  | m, [] => do
    closing ending
    return m
  | m, (k, d) :: rest => do
    let k ← key k
    let x ← r depth d
    members r depth ending (m.insert k x) rest

/-- An object with any keys; the last of several members with one key stays. -/
def keyMap (r : Reader α) : Reader (KeyMap α)
  | depth, .object ms ending => do members r (← deeper depth) ending .empty ms
  | _, d => mismatch "a map" d

/-- A name out of a list, as a text or as the only key of an object with the value `null`. -/
def variant (names : List (String × α)) : Reader α
  | _, .text q => do choose (← quote q)
  | depth, .object ms ending => do
    let _ ← deeper depth
    match ms with
    | [] => stopping (if ending = some (.ended .object) then .ended .value else .malformed)
    | (k, d) :: rest =>
      let x ← match k with
        | .text q => do choose (← quote q)
        | k => mismatch "variant identifier" k
      match d with
      | .null => pure ()
      | d => mismatch "unit" d
      if rest.isEmpty then closing ending else stopping .malformed
      return x
  | _, .nothing s => stopping s
  | _, _ => stopping .malformed
where
  choose (name : String) : Except Fault α :=
    match names.lookup name with
    | some x => .ok x
    | none => .error (.unknownVariant name (names.map (·.1)))

/-- One field of a record that is being read into a partial value of type `σ`. -/
structure Slot (σ : Type) where
  name : String
  required : Bool
  isSet : σ → Bool
  read : Nat → Draft → σ → Except Fault σ

def slot (name : String) (required : Bool) (r : Reader α) (get : σ → Option α)
    (set : σ → α → σ) : Slot σ where
  name := name
  required := required
  isSet p := (get p).isSome
  read depth d p := set p <$> r depth d

/-- Reads members into the slots of their names. Members of other names are skipped. -/
def fields (slots : List (Slot σ)) (depth : Nat) (ending : Option Stop) :
    σ → List (Draft × Draft) → Except Fault σ
  | p, [] => do
    closing ending
    return p
  | p, (k, d) :: rest => do
    let name ← key k
    match slots.find? (·.name == name) with
    | some s =>
      if s.isSet p then .error (.duplicateField name)
      else fields slots depth ending (← s.read depth d p) rest
    | none =>
      match d.skipStop with
      | some s => stopping s
      | none => fields slots depth ending p rest

/-- Reads items into the slots in their order. Slots at the end may stay unset unless they are
required; items past the last slot have no place. -/
def positions (expected : String) (depth : Nat) (ending : Option Stop) :
    Nat → List (Slot σ) → σ → List Draft → Except Fault σ
  | _, [], p, [] => do
    closing ending
    return p
  | _, [], _, _ :: _ => stopping .malformed
  | index, s :: slots, p, [] => do
    closing ending
    if s.required then .error (.wrongLength index expected)
    else positions expected depth ending (index + 1) slots p []
  | index, s :: slots, p, d :: rest => do
    positions expected depth ending (index + 1) slots (← s.read depth d p) rest

def record (name : String) (slots : List (Slot σ)) (start : σ) (finish : σ → α) : Reader α
  | depth, .object ms ending => do
    let p ← fields slots (← deeper depth) ending start ms
    match slots.find? fun s => s.required && !s.isSet p with
    | some s => .error (.missingField s.name)
    | none => return finish p
  | depth, .array ds ending => do
    let plural := if slots.length = 1 then " element" else " elements"
    let expected := "struct " ++ name ++ " with " ++ Number.intText slots.length ++ plural
    return finish (← positions expected (← deeper depth) ending 0 slots start ds)
  | _, d => mismatch ("struct " ++ name) d

end Reader

mutual

/-- Why a value cannot be kept whole, the reason first in text order. -/
def Draft.keepFault : Nat → Draft → Except Fault Unit
  | _, .nothing s => .error (.stop s)
  | _, .brokenWord s => .error (.stop s)
  | _, .brokenNumber s => .error (.stop s)
  | _, .null => .ok ()
  | _, .bool _ => .ok ()
  | _, .number n => do
    let _ ← Reader.numeral n
    return ()
  | _, .text q => do
    let _ ← Reader.quote q
    return ()
  | depth, .array items ending => do
    let depth ← Reader.deeper depth
    keepItems depth items
    Reader.closing ending
  | depth, .object ms ending => do
    let depth ← Reader.deeper depth
    keepMembers depth ms
    Reader.closing ending

def keepItems : Nat → List Draft → Except Fault Unit
  | _, [] => .ok ()
  | depth, d :: rest => do
    d.keepFault depth
    keepItems depth rest

def keepMembers : Nat → List (Draft × Draft) → Except Fault Unit
  | _, [] => .ok ()
  | depth, (k, d) :: rest => do
    let _ ← Reader.key k
    d.keepFault depth
    keepMembers depth rest

end

def read {α : Type} (r : Reader α) (bytes : Bytes) : Except Fault α := do
  let (d, rest) := parse bytes
  let x ← r 0 d
  if (skipSpace rest).isEmpty then return x else .error (.stop .malformed)

end PluginFlow.Json
