/-!
Base64 with the standard alphabet and padding.
-/

namespace PluginFlow.Text.Base64

def alphabet : List Char :=
  "ABCDEFGHIJKLMNOPQRSTUVWXYZabcdefghijklmnopqrstuvwxyz0123456789+/".toList

def letter (n : Nat) : Char :=
  alphabet.getD (n % 64) 'A'

/-- Four letters for three bytes; a last group of one or two bytes is padded. -/
def letters : List UInt8 → List Char
  | [] => []
  | [a] =>
    let n := a.toNat * 16
    [letter (n / 64), letter n, '=', '=']
  | [a, b] =>
    let n := (a.toNat * 256 + b.toNat) * 4
    [letter (n / 4096), letter (n / 64), letter n, '=']
  | a :: b :: c :: rest =>
    let n := (a.toNat * 256 + b.toNat) * 256 + c.toNat
    letter (n / 262144) :: letter (n / 4096) :: letter (n / 64) :: letter n :: letters rest

def encode (bytes : List UInt8) : String :=
  String.ofList (letters bytes)

theorem length_letters (bytes : List UInt8) :
    (letters bytes).length = (bytes.length + 2) / 3 * 4 := by
  fun_induction letters bytes with
  | case1 => simp
  | case2 => simp
  | case3 => simp
  | case4 a b c rest n ih => simp only [List.length_cons, ih]; omega

end PluginFlow.Text.Base64
