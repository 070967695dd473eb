import PluginFlow.Text.Utf8
import PluginFlow.Text.Ascii

/-!
What a text says as JSON, as far as it can be read. A draft keeps members in text order with
duplicates, texts and numerals unread, and the place where the text breaks off, so that a reader of
one shape meets the faults of a text in their order. Whether a fault matters depends on the reader:
a value that is skipped may hold numerals too large for a number and unpaired surrogates.
-/

namespace PluginFlow.Json

inductive Unfinished
  | value
  | string
  | list
  | object
  deriving DecidableEq, Repr

/-- Why a text cannot be read on: a character has no place here, or the text has ended. -/
inductive Stop
  | malformed
  | ended (inside : Unfinished)
  deriving DecidableEq, Repr

inductive Piece
  | byte (b : UInt8)
  | escaped (c : Char)
  /-- A UTF-16 unit written as four hexadecimal digits. -/
  | unit (n : Nat)
  deriving DecidableEq, Repr

/-- A text between quotation marks, with the reason when the closing one is not reached. -/
structure Quote where
  pieces : List Piece
  ending : Option Stop
  deriving DecidableEq, Repr

structure Numeral where
  negative : Bool
  whole : List Char
  fraction : Option (List Char)
  /-- The sign (true when negative) and the digits of the power of ten. -/
  power : Option (Bool × List Char)
  deriving DecidableEq, Repr

inductive Draft
  /-- No value starts here. -/
  | nothing (s : Stop)
  /-- A word that starts like `null`, `true` or `false` and goes on differently. -/
  | brokenWord (s : Stop)
  | null
  | bool (b : Bool)
  | number (n : Numeral)
  /-- Digits that are no number, with the reason given to a reader who needs the number. -/
  | brokenNumber (s : Stop)
  | text (q : Quote)
  | array (items : List Draft) (ending : Option Stop)
  /-- Each member with whatever stands at the place of its key. -/
  | object (members : List (Draft × Draft)) (ending : Option Stop)

instance : Inhabited Draft := ⟨.null⟩

abbrev Bytes := List UInt8

def is (c : Char) (b : UInt8) : Bool := b.toNat == c.toNat

def isSpace (b : UInt8) : Bool :=
  is ' ' b || is '\n' b || is '\t' b || is '\r' b

def isDigit (b : UInt8) : Bool :=
  48 ≤ b.toNat && b.toNat ≤ 57

def skipSpace (bs : Bytes) : Bytes := bs.dropWhile isSpace

def takeDigits (bs : Bytes) : List Char × Bytes :=
  ((bs.takeWhile isDigit).map fun b => Char.ofNat b.toNat, bs.dropWhile isDigit)

def shortEscape? (b : UInt8) : Option Char :=
  if is '"' b then some '"'
  else if is '\\' b then some '\\'
  else if is '/' b then some '/'
  else if is 'b' b then some (Char.ofNat 8)
  else if is 'f' b then some (Char.ofNat 12)
  else if is 'n' b then some '\n'
  else if is 'r' b then some '\r'
  else if is 't' b then some '\t'
  else none

def hexUnit? (a b c d : UInt8) : Option Nat := do
  let value (x : UInt8) := Text.hexValue? (Char.ofNat x.toNat)
  return (((← value a) * 16 + (← value b)) * 16 + (← value c)) * 16 + (← value d)

def Quote.push (p : Piece) (r : Quote × Bytes) : Quote × Bytes :=
  (⟨p :: r.1.pieces, r.1.ending⟩, r.2)

def takeQuote : Bytes → Quote × Bytes
  | [] => (⟨[], some (.ended .string)⟩, [])
  | b :: rest =>
    if is '"' b then (⟨[], none⟩, rest)
    else if is '\\' b then
      match rest with
      | [] => (⟨[], some (.ended .string)⟩, [])
      | e :: rest =>
        if is 'u' e then
          match rest with
          | h₁ :: h₂ :: h₃ :: h₄ :: rest =>
            match hexUnit? h₁ h₂ h₃ h₄ with
            | some n => Quote.push (.unit n) (takeQuote rest)
            | none => (⟨[], some .malformed⟩, rest)
          | _ => (⟨[], some (.ended .string)⟩, [])
        else
          match shortEscape? e with
          | some c => Quote.push (.escaped c) (takeQuote rest)
          | none => (⟨[], some .malformed⟩, rest)
    else if b.toNat < 0x20 then (⟨[], some .malformed⟩, rest)
    else Quote.push (.byte b) (takeQuote rest)

def takeWord (found : Draft) : List Char → Bytes → Draft × Bytes
  | [], rest => (found, rest)
  | _ :: _, [] => (.brokenWord (.ended .value), [])
  | c :: word, b :: rest =>
    if is c b then takeWord found word rest else (.brokenWord .malformed, rest)

def missingDigits (rest : Bytes) : Draft × Bytes :=
  (.brokenNumber (if rest.isEmpty then .ended .value else .malformed), rest)

def takePower (negative : Bool) (whole : List Char) (fraction : Option (List Char))
    (rest : Bytes) : Draft × Bytes :=
  match rest with
  | e :: afterMark =>
    if is 'e' e || is 'E' e then
      let (down, afterSign) := match afterMark with
        | s :: r => if is '-' s then (true, r) else if is '+' s then (false, r) else (false, s :: r)
        | [] => (false, [])
      let (digits, rest) := takeDigits afterSign
      if digits.isEmpty then missingDigits rest
      else (.number ⟨negative, whole, fraction, some (down, digits)⟩, rest)
    else (.number ⟨negative, whole, fraction, none⟩, rest)
  | [] => (.number ⟨negative, whole, fraction, none⟩, [])

def takeFraction (negative : Bool) (whole : List Char) (rest : Bytes) : Draft × Bytes :=
  match rest with
  | p :: afterPoint =>
    if is '.' p then
      let (digits, rest) := takeDigits afterPoint
      if digits.isEmpty then missingDigits rest
      else takePower negative whole (some digits) rest
    else takePower negative whole none rest
  | [] => takePower negative whole none []

/-- Reads a number after its sign. A leading zero stands alone. -/
def takeNumber (negative : Bool) (bs : Bytes) : Draft × Bytes :=
  let (digits, rest) := takeDigits bs
  match digits with
  | [] => missingDigits rest
  | '0' :: _ :: _ => (.brokenNumber .malformed, rest)
  | whole => takeFraction negative whole rest

mutual

def takeValue : Nat → Bytes → Draft × Bytes
  | 0, bs => (.nothing .malformed, bs)
  | fuel + 1, bs =>
    match skipSpace bs with
    | [] => (.nothing (.ended .value), [])
    | b :: rest =>
      if is '\x7b' b then
        let (members, ending, rest) := takeMembers fuel true rest
        (.object members ending, rest)
      else if is '[' b then
        let (items, ending, rest) := takeItems fuel true rest
        (.array items ending, rest)
      else if is '"' b then
        let (q, rest) := takeQuote rest
        (.text q, rest)
      else if is 'n' b then takeWord .null ['u', 'l', 'l'] rest
      else if is 't' b then takeWord (.bool true) ['r', 'u', 'e'] rest
      else if is 'f' b then takeWord (.bool false) ['a', 'l', 's', 'e'] rest
      else if is '-' b then takeNumber true rest
      else if isDigit b then takeNumber false (b :: rest)
      else (.nothing .malformed, b :: rest)

def takeItems : Nat → Bool → Bytes → List Draft × Option Stop × Bytes
  | 0, _, bs => ([], some .malformed, bs)
  | fuel + 1, isFirst, bs =>
    match skipSpace bs with
    | [] => ([], some (.ended .list), [])
    | b :: rest =>
      if is ']' b then ([], none, rest)
      else if isFirst || is ',' b then
        let (item, rest) := takeValue fuel (if isFirst then b :: rest else rest)
        let (items, ending, rest) := takeItems fuel false rest
        (item :: items, ending, rest)
      else ([], some .malformed, b :: rest)

def takeMembers : Nat → Bool → Bytes → List (Draft × Draft) × Option Stop × Bytes
  | 0, _, bs => ([], some .malformed, bs)
  | fuel + 1, isFirst, bs =>
    match skipSpace bs with
    | [] => ([], some (.ended .object), [])
    | b :: rest =>
      if is '\x7d' b then ([], none, rest)
      else if isFirst || is ',' b then
        let (key, rest) := takeValue fuel (if isFirst then b :: rest else rest)
        let (value, rest) := match skipSpace rest with
          | [] => (.nothing (.ended .object), [])
          | c :: rest =>
            if is ':' c then takeValue fuel rest else (.nothing .malformed, c :: rest)
        let (members, ending, rest) := takeMembers fuel false rest
        ((key, value) :: members, ending, rest)
      else ([], some .malformed, b :: rest)

end

/-- The value at the start of a text, and what follows it. A step down takes a byte, or goes from
an opening bracket to the first value behind it, so twice the length bounds the steps. -/
def parse (bs : Bytes) : Draft × Bytes := takeValue (2 * bs.length + 1) bs

mutual

def Draft.skipStop : Draft → Option Stop
  | .nothing s => some s
  | .brokenWord s => some s
  | .brokenNumber _ => some .malformed
  | .text q => q.ending
  | .array items ending => (itemsSkipStop items).or ending
  | .object members ending => (membersSkipStop members).or ending
  | .null => none
  | .bool _ => none
  | .number _ => none

def itemsSkipStop : List Draft → Option Stop
  | [] => none
  | d :: rest => d.skipStop.or (itemsSkipStop rest)

def membersSkipStop : List (Draft × Draft) → Option Stop
  | [] => none
  | (key, d) :: rest =>
    (match key with
      | .text q => q.ending
      | .nothing (.ended _) => some (.ended .object)
      | _ => some .malformed).or (d.skipStop.or (membersSkipStop rest))

end

/-- The bytes of a quote. A leading surrogate takes the trailing one that follows it. -/
def pieceBytes (ending : Option Stop) : List Piece → Except Stop Bytes
  | [] => match ending with
    | none => .ok []
    | some s => .error s
  | .byte b :: rest => return b :: (← pieceBytes ending rest)
  | .escaped c :: rest => return Text.Utf8.encodeChar c ++ (← pieceBytes ending rest)
  | .unit n :: rest =>
    if 0xDC00 ≤ n ∧ n ≤ 0xDFFF then .error .malformed
    else if 0xD800 ≤ n ∧ n ≤ 0xDBFF then
      match rest with
      | .unit m :: rest =>
        if 0xDC00 ≤ m ∧ m ≤ 0xDFFF then
          return Text.Utf8.encodeChar (Char.ofNat (0x10000 + (n - 0xD800) * 1024 + (m - 0xDC00))) ++
            (← pieceBytes ending rest)
        else .error .malformed
      | [] => .error (if ending = some (.ended .string) then .ended .string else .malformed)
      | _ => .error .malformed
    else return Text.Utf8.encodeChar (Char.ofNat n) ++ (← pieceBytes ending rest)

def Quote.read (q : Quote) : Except Stop String :=
  match pieceBytes q.ending q.pieces with
  | .error s => .error s
  | .ok bs =>
    match Text.Utf8.decode? bs with
    | some s => .ok s
    | none => .error .malformed

end PluginFlow.Json
