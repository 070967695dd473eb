import PluginFlow.Text.Ascii

/-!
The BLAKE3 digest. A text is cut into chunks of 1024 bytes, each chunk is absorbed block by
block, and the chunk values are joined in a binary tree whose left subtrees are full.
-/

namespace PluginFlow.Digest.Blake3

def initial : List UInt32 :=
  [0x6A09E667, 0xBB67AE85, 0x3C6EF372, 0xA54FF53A, 0x510E527F, 0x9B05688C, 0x1F83D9AB, 0x5BE0CD19]

def schedule : List Nat :=
  [2, 6, 3, 10, 7, 0, 4, 13, 1, 11, 12, 5, 9, 14, 15, 8]

def chunkStart : UInt32 := 1
def chunkEnd : UInt32 := 2
def parentFlag : UInt32 := 4
def rootFlag : UInt32 := 8

def rotateRight (w : UInt32) (n : UInt32) : UInt32 :=
  (w >>> n) ||| (w <<< (32 - n))

def quarter (s : Array UInt32) (a b c d : Nat) (x y : UInt32) : Array UInt32 :=
  let a₁ := s.getD a 0 + s.getD b 0 + x
  let d₁ := rotateRight (s.getD d 0 ^^^ a₁) 16
  let c₁ := s.getD c 0 + d₁
  let b₁ := rotateRight (s.getD b 0 ^^^ c₁) 12
  let a₂ := a₁ + b₁ + y
  let d₂ := rotateRight (d₁ ^^^ a₂) 8
  let c₂ := c₁ + d₂
  let b₂ := rotateRight (b₁ ^^^ c₂) 7
  (((s.setIfInBounds a a₂).setIfInBounds b b₂).setIfInBounds c c₂).setIfInBounds d d₂

def round (s m : Array UInt32) : Array UInt32 :=
  let w := fun i => m.getD i 0
  let s := quarter s 0 4 8 12 (w 0) (w 1)
  let s := quarter s 1 5 9 13 (w 2) (w 3)
  let s := quarter s 2 6 10 14 (w 4) (w 5)
  let s := quarter s 3 7 11 15 (w 6) (w 7)
  let s := quarter s 0 5 10 15 (w 8) (w 9)
  let s := quarter s 1 6 11 12 (w 10) (w 11)
  let s := quarter s 2 7 8 13 (w 12) (w 13)
  quarter s 3 4 9 14 (w 14) (w 15)

def permute (m : Array UInt32) : Array UInt32 :=
  (schedule.map fun i => m.getD i 0).toArray

def rounds : Nat → Array UInt32 → Array UInt32 → Array UInt32
  | 0, s, _ => s
  | n + 1, s, m => rounds n (round s m) (permute m)

structure Node where
  chaining : List UInt32
  block : List UInt32
  counter : Nat
  length : Nat
  flags : UInt32

def Node.compress (node : Node) (extra : UInt32) : List UInt32 :=
  let s : List UInt32 := node.chaining ++ initial.take 4 ++
    [node.counter.toUInt32, (node.counter / Nat.pow 2 32).toUInt32, node.length.toUInt32,
      node.flags ||| extra]
  let r := (rounds 7 s.toArray node.block.toArray).toList
  List.zipWith (· ^^^ ·) (r.take 8) (r.drop 8)

def Node.value (node : Node) : List UInt32 := node.compress 0

/-- Little-endian words of a block, short blocks filled with zeros. -/
def blockWords (bytes : List UInt8) : List UInt32 :=
  let padded := (bytes ++ List.replicate (64 - bytes.length) 0).toArray
  let byte (i : Nat) : UInt32 := (padded.getD i 0).toUInt32
  (List.range 16).map fun i =>
    byte (4 * i) ||| (byte (4 * i + 1) <<< 8) ||| (byte (4 * i + 2) <<< 16) |||
      (byte (4 * i + 3) <<< 24)

/-- Absorbs a chunk; its last block is left unsqueezed. -/
def chunkFrom (counter : Nat) (chaining : List UInt32) (start : UInt32) (bytes : List UInt8) : Node :=
  if _h : bytes.length ≤ 64 then
    ⟨chaining, blockWords bytes, counter, bytes.length, start ||| chunkEnd⟩
  else
    let node : Node := ⟨chaining, blockWords (bytes.take 64), counter, 64, start⟩
    chunkFrom counter node.value 0 (bytes.drop 64)
termination_by bytes.length
decreasing_by simp only [List.length_drop]; omega

/-- Bytes in the left subtree: the largest full tree that leaves something for the right. -/
def leftLength (n : Nat) : Nat :=
  1024 * Nat.pow 2 ((n - 1) / 1024).log2

theorem leftLength_pos (n : Nat) : 0 < leftLength n :=
  Nat.mul_pos (by decide) (Nat.two_pow_pos _)

theorem leftLength_lt {n : Nat} (h : 1024 < n) : leftLength n < n := by
  have h₀ : (n - 1) / 1024 ≠ 0 := by omega
  have := Nat.log2_self_le h₀
  rw [leftLength, Nat.pow_eq]
  omega

def subtree (counter : Nat) (bytes : List UInt8) : Node :=
  if _h : bytes.length ≤ 1024 then chunkFrom counter initial chunkStart bytes
  else
    let cut := leftLength bytes.length
    let left := subtree counter (bytes.take cut)
    let right := subtree (counter + cut / 1024) (bytes.drop cut)
    ⟨initial, left.value ++ right.value, 0, 64, parentFlag⟩
termination_by bytes.length
decreasing_by
  · have := leftLength_lt (n := bytes.length) (by omega)
    simp only [List.length_take]; omega
  · have := leftLength_pos bytes.length
    simp only [List.length_drop]; omega

def digest (bytes : List UInt8) : List UInt8 :=
  ((subtree 0 bytes).compress rootFlag).flatMap fun (w : UInt32) =>
    [w.toUInt8, (w >>> 8).toUInt8, (w >>> 16).toUInt8, (w >>> 24).toUInt8]

def hexDigest (bytes : List UInt8) : String :=
  String.ofList ((digest bytes).flatMap Text.hexByte)

end PluginFlow.Digest.Blake3
