import PluginFlow.Proofs.AddressText

/-!
The blocks of addresses that must not be contacted. An address as one number lies in a block if its
first bits are those of the block; the tests on octets and pieces decide exactly that.
-/

namespace PluginFlow.Net

/-- A block of addresses of some width: those whose first bits are the ones of a base. -/
structure Block (width : Nat) where
  base : Nat
  bits : Nat

def Block.Contains {width : Nat} (block : Block width) (n : Nat) : Prop :=
  n >>> (width - block.bits) = block.base >>> (width - block.bits)

instance {width : Nat} (block : Block width) (n : Nat) : Decidable (block.Contains n) :=
  inferInstanceAs (Decidable (_ = _))

namespace Ipv4

/-- The blocks 0.0.0.0/8, 10.0.0.0/8, 127.0.0.0/8, 169.254.0.0/16, 172.16.0.0/12 and
192.168.0.0/16. -/
def privateBlocks : List (Block 32) :=
  [⟨toNat ⟨0, 0, 0, 0⟩, 8⟩, ⟨toNat ⟨10, 0, 0, 0⟩, 8⟩, ⟨toNat ⟨127, 0, 0, 0⟩, 8⟩,
    ⟨toNat ⟨169, 254, 0, 0⟩, 16⟩, ⟨toNat ⟨172, 16, 0, 0⟩, 12⟩, ⟨toNat ⟨192, 168, 0, 0⟩, 16⟩]

/-- The private addresses are those of the private blocks. -/
theorem isPrivate_iff {x : Ipv4} :
    x.isPrivate = true ↔ ∃ block ∈ privateBlocks, block.Contains x.toNat := by
  have ha := x.a.toNat_lt
  have hb := x.b.toNat_lt
  have hc := x.c.toNat_lt
  have hd := x.d.toNat_lt
  simp only [isPrivate, Bool.or_eq_true, Bool.and_eq_true, beq_iff_eq, decide_eq_true_eq,
    ← UInt8.toNat_inj, UInt8.le_iff_toNat_le, privateBlocks, List.mem_cons, List.not_mem_nil,
    or_false, exists_eq_or_imp, exists_eq_left, Block.Contains, toNat]
  simp only [UInt8.reduceToNat, Nat.reduceSub, Nat.reduceMul, Nat.reduceAdd, Nat.reduceShiftRight]
  omega

end Ipv4

namespace Ipv6

def toNat (x : Ipv6) : Nat := x.pieces.foldl (fun n p => 65536 * n + p.toNat) 0

def unspecified : Block 128 := ⟨0, 128⟩

def loopback : Block 128 := ⟨1, 128⟩

def uniqueLocal : Block 128 := ⟨0xFC00 <<< 112, 7⟩

def linkLocal : Block 128 := ⟨0xFE80 <<< 112, 10⟩

def privateBlocks : List (Block 128) := [loopback, unspecified, uniqueLocal, linkLocal]

/-- Pieces are the digits of a number. -/
theorem foldl_inj {ps qs : List UInt16} {n m : Nat} (size : ps.length = qs.length)
    (h : ps.foldl (fun n p => 65536 * n + p.toNat) n =
      qs.foldl (fun n p => 65536 * n + p.toNat) m) : n = m ∧ ps = qs := by
  induction ps generalizing qs n m with
  | nil =>
    cases qs with
    | nil => exact ⟨h, rfl⟩
    | cons q qs => cases size
  | cons p ps ih =>
    cases qs with
    | nil => cases size
    | cons q qs =>
      obtain ⟨heads, rfl⟩ := ih (Nat.succ.inj size) h
      dsimp only at heads
      have hp := p.toNat_lt
      have hq := q.toNat_lt
      have same : p = q := UInt16.toNat_inj.1 (by omega)
      exact ⟨by omega, by rw [same]⟩

/-- Different addresses have different numbers. -/
theorem toNat_inj {x y : Ipv6} : x.toNat = y.toNat ↔ x.pieces = y.pieces := by
  constructor
  · intro h
    exact (foldl_inj (x.size_eq.trans y.size_eq.symm) h).2
  · intro h
    rw [toNat, toNat, h]

/-- The first piece holds the first bits. -/
theorem toNat_shiftRight (x : Ipv6) : x.toNat >>> 112 = x.first.toNat := by
  obtain ⟨pieces, size⟩ := x
  match pieces, size with
  | [p₀, p₁, p₂, p₃, p₄, p₅, p₆, p₇], _ =>
    have h₁ := p₁.toNat_lt
    have h₂ := p₂.toNat_lt
    have h₃ := p₃.toNat_lt
    have h₄ := p₄.toNat_lt
    have h₅ := p₅.toNat_lt
    have h₆ := p₆.toNat_lt
    have h₇ := p₇.toNat_lt
    simp only [toNat, first, List.foldl_cons, List.foldl_nil, List.headD_cons]
    omega

theorem isUnspecified_iff {x : Ipv6} : x.isUnspecified = true ↔ unspecified.Contains x.toNat := by
  have h := toNat_inj (x := x) (y := ⟨[0, 0, 0, 0, 0, 0, 0, 0], rfl⟩)
  rw [isUnspecified, beq_iff_eq, ← h, Block.Contains]
  simp [unspecified, toNat]

theorem isLoopback_iff {x : Ipv6} : x.isLoopback = true ↔ loopback.Contains x.toNat := by
  have h := toNat_inj (x := x) (y := ⟨[0, 0, 0, 0, 0, 0, 0, 1], rfl⟩)
  rw [isLoopback, beq_iff_eq, ← h, Block.Contains]
  simp [loopback, toNat]

/-- Masking keeps some of the bits of a number and clears the others. -/
theorem and_mask (n k w : Nat) :
    n &&& ((1 <<< w - 1) <<< k) = (n >>> k % 1 <<< w) <<< k := by
  apply Nat.eq_of_testBit_eq
  intro i
  simp only [Nat.one_shiftLeft, Nat.testBit_and, Nat.testBit_shiftLeft,
    Nat.testBit_two_pow_sub_one, Nat.testBit_mod_two_pow, Nat.testBit_shiftRight]
  by_cases high : k ≤ i
  · simp [high, Nat.add_sub_cancel' high, Bool.and_comm]
  · simp [high]

theorem isUniqueLocal_iff {x : Ipv6} : x.isUniqueLocal = true ↔ uniqueLocal.Contains x.toNat := by
  have masked : x.first.toNat &&& 0xFE00 = (x.first.toNat >>> 9 % 128) <<< 9 :=
    and_mask x.first.toNat 9 7
  have small := x.first.toNat_lt
  have first := x.toNat_shiftRight
  rw [isUniqueLocal, beq_iff_eq, ← UInt16.toNat_inj, UInt16.toNat_and, Block.Contains]
  change x.first.toNat &&& 0xFE00 = 0xFC00 ↔ x.toNat >>> 121 = 126
  rw [masked]
  omega

theorem isLinkLocal_iff {x : Ipv6} : x.isLinkLocal = true ↔ linkLocal.Contains x.toNat := by
  have masked : x.first.toNat &&& 0xFFC0 = (x.first.toNat >>> 6 % 1024) <<< 6 :=
    and_mask x.first.toNat 6 10
  have small := x.first.toNat_lt
  have first := x.toNat_shiftRight
  rw [isLinkLocal, beq_iff_eq, ← UInt16.toNat_inj, UInt16.toNat_and, Block.Contains]
  change x.first.toNat &&& 0xFFC0 = 0xFE80 ↔ x.toNat >>> 118 = 1018
  rw [masked]
  omega

/-- The block ::ffff:0:0/96 holds the IPv4 addresses in the form of IPv6 ones. -/
theorem mapped?_iff {x : Ipv6} {a : Ipv4} :
    x.mapped? = some a ↔ x.toNat = 0xFFFF <<< 32 + a.toNat := by
  have h := toNat_inj (x := x) (y := ⟨[0, 0, 0, 0, 0, 0xFFFF, a.a.toUInt16 * 256 + a.b.toUInt16,
    a.c.toUInt16 * 256 + a.d.toUInt16], rfl⟩)
  have number : toNat ⟨[0, 0, 0, 0, 0, 0xFFFF, a.a.toUInt16 * 256 + a.b.toUInt16,
      a.c.toUInt16 * 256 + a.d.toUInt16], rfl⟩ = 0xFFFF <<< 32 + a.toNat := by
    simp only [toNat, List.foldl_cons, List.foldl_nil, Ipv4.toNat_piece, Ipv4.toNat]
    simp only [UInt16.reduceToNat]
    omega
  rw [mapped?_eq_some, ← h, number]

end Ipv6

/-- The addresses that must not be contacted: those of the private blocks, and IPv4 addresses of
private blocks in the form of IPv6 ones. -/
def Address.Private : Address → Prop
  | .v4 a => ∃ block ∈ Ipv4.privateBlocks, block.Contains a.toNat
  | .v6 x => (∃ block ∈ Ipv6.privateBlocks, block.Contains x.toNat) ∨
      ∃ a : Ipv4, x.toNat = 0xFFFF <<< 32 + a.toNat ∧
        ∃ block ∈ Ipv4.privateBlocks, block.Contains a.toNat

/-- The tests on octets and pieces find exactly the private addresses. -/
theorem Address.isBlocked_iff {a : Address} : a.isBlocked = true ↔ a.Private := by
  cases a with
  | v4 a => exact Ipv4.isPrivate_iff
  | v6 x =>
    have mapped : (x.mapped?.map Ipv4.isPrivate).getD false = true ↔
        ∃ a : Ipv4, x.toNat = 0xFFFF <<< 32 + a.toNat ∧
          ∃ block ∈ Ipv4.privateBlocks, block.Contains a.toNat := by
      simp only [← Ipv6.mapped?_iff, ← Ipv4.isPrivate_iff]
      cases x.mapped? <;> simp
    simp only [isBlocked, Bool.or_eq_true, mapped, Private, Ipv6.isLoopback_iff,
      Ipv6.isUnspecified_iff, Ipv6.isUniqueLocal_iff, Ipv6.isLinkLocal_iff, Ipv6.privateBlocks,
      List.mem_cons, List.not_mem_nil, or_false, exists_eq_or_imp, exists_eq_left, or_assoc]

instance (a : Address) : Decidable a.Private := decidable_of_iff _ Address.isBlocked_iff

example : (Address.v4 ⟨172, 31, 255, 255⟩).Private ∧ ¬ (Address.v4 ⟨172, 32, 0, 0⟩).Private := by
  decide

end PluginFlow.Net
