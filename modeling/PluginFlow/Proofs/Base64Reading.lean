import PluginFlow.Proofs.Template

/-!
Base64 texts read back. A text of groups of four letters, the last of which may be padded, stands
for bytes; the text that bytes are written as stands for these bytes and has no more letters than
they need.
-/

namespace PluginFlow.Text.Base64

def value? (c : Char) : Option Nat := alphabet.idxOf? c

/-- The bytes that letters stand for: three for each four letters, one or two for a last group with
padding. -/
def bytes? : List Char → Option (List UInt8)
  | [] => some []
  | w :: x :: y :: z :: rest => do
    let a ← value? w
    let b ← value? x
    if rest = [] ∧ z = '=' then
      if y = '=' then return [UInt8.ofNat ((a * 64 + b) / 16)]
      let c ← value? y
      let n := ((a * 64 + b) * 64 + c) / 4
      return [UInt8.ofNat (n / 256), UInt8.ofNat (n % 256)]
    let c ← value? y
    let d ← value? z
    let n := ((a * 64 + b) * 64 + c) * 64 + d
    return UInt8.ofNat (n / 65536) :: UInt8.ofNat (n / 256 % 256) :: UInt8.ofNat (n % 256) ::
      (← bytes? rest)
  | _ => none

def decode? (text : String) : Option (List UInt8) := bytes? text.toList

theorem value?_letter (n : Nat) : value? (letter n) = some (n % 64) := by
  have table : ∀ k < 64, value? (letter k) = some k := by decide +kernel
  have same : letter (n % 64) = letter n := by rw [letter, letter, Nat.mod_mod]
  rw [← same]
  exact table _ (Nat.mod_lt n (by decide))

theorem letter_ne_padding (n : Nat) : letter n ≠ '=' := by
  intro padding
  have member := letter_mem n
  rw [padding] at member
  revert member
  decide

theorem bytes?_letters (bytes : List UInt8) : bytes? (letters bytes) = some bytes := by
  fun_induction letters bytes with
  | case1 => rfl
  | case2 a n =>
    have low : a.toNat < 256 := a.toNat_lt
    have sum : (n / 64 % 64 * 64 + n % 64) / 16 = a.toNat := by omega
    simp [bytes?, value?_letter, sum]
  | case3 a b n =>
    have low : a.toNat < 256 := a.toNat_lt
    have low' : b.toNat < 256 := b.toNat_lt
    have sum : ((n / 4096 % 64 * 64 + n / 64 % 64) * 64 + n % 64) / 4 =
        a.toNat * 256 + b.toNat := by omega
    have first : (a.toNat * 256 + b.toNat) / 256 = a.toNat := by omega
    have second : (a.toNat * 256 + b.toNat) % 256 = b.toNat := by omega
    simp [bytes?, value?_letter, letter_ne_padding, sum, first, second]
  | case4 a b c rest n ih =>
    have low : a.toNat < 256 := a.toNat_lt
    have low' : b.toNat < 256 := b.toNat_lt
    have low'' : c.toNat < 256 := c.toNat_lt
    have sum : ((n / 262144 % 64 * 64 + n / 4096 % 64) * 64 + n / 64 % 64) * 64 + n % 64 = n := by
      omega
    have first : n / 65536 = a.toNat := by omega
    have second : n / 256 % 256 = b.toNat := by omega
    have third : n % 256 = c.toNat := by omega
    simp [bytes?, value?_letter, letter_ne_padding, sum, first, second, third, ih]

/-- What bytes are written as is read as these bytes. -/
theorem decode?_encode (bytes : List UInt8) : decode? (encode bytes) = some bytes := by
  rw [decode?, encode, String.toList_ofList, bytes?_letters]

/-- Bytes take four letters for every three of them, a last group counting in full. -/
theorem length_encode (bytes : List UInt8) :
    (encode bytes).toList.length = (bytes.length + 2) / 3 * 4 := by
  rw [encode, String.toList_ofList, length_letters]

end PluginFlow.Text.Base64
