import PluginFlow.Text.Packed

/-!
The composed normal form of texts: characters are taken apart into a base and marks, marks are
put into the order of their classes, and what composes is put together again. The tables hold the
characters that host names may contain.
-/

namespace PluginFlow.Text.Composition

/-- Combining classes, in packed digits. -/
def classLines : List String :=
    ["gYUmHAAoHAD8GAAoHAA4GAE8GABqGAD8GABqGAK8GAEBAD8GAJmHAC8GACmHAB8GBCmHAD8GAAmHAAoHAB8GAAmHAApH",
     "ABqHAApHABqHAApHAMmHzIEmHpIA8GADmHAA8GACmHAA+GAA8GAFmHAF8GABmHAA8GABmHAA+GAAkHAAmHAAKAALAAMA",
     "ANAAOAAPAAQAARAASABTAAUAAVAAWBAXBAYAAZBAmHAA8GBASoCHmHAAeAAfAAgBwBAbAAcAAdAAeAAfAAgBAAhBAAiB",
     "ABmHAB8GAEmHAA8GABmHAA8GQAjBlDGmHCDmHAA8GAAmHCBmHBA8GABmHAA8GjBAkBeAmHAA8GABmHAA8GABmHAC8GAA",
     "mHAB8GAAmHAA8GACmHAA8GAAmHAA8GAAmHAA8GAAmHAA8GABmHgFGmHAA8GAAmHJA8GYDmHBImHBCmHBEmHrBC8G7BBm",
     "HAC8GADmHqBEmHAE8GANmHBA8GABmHAA8GABmHAA8GACmHAC8GAAbAAcAAdACmHAA8GABmHAB8GAEmH8BAHQAJDAmHAA",
     "8GABmHnDAHQAJwBAmH9BAHQAJuDAHQAJuDAHQAJ/DAJuDAHQAJHA0CAA7ClDAHQAJtDBJQAJ8DAJtDBnDAAJNDrDsDB2",
     "DAAJND6DsCB8GbA8GBA8GBA4G3BAhEAAiEBAkEFDiECAiEBBmHAAJBBmH+BA8GwDAHBBJyCA8GvWCmH0dBJeAJ9EAJKA",
     "mHrGAkHvEA+GAAmHAA8G7GAmHAA8GnCAJUHmHCA8GwBEmHAF8GABmHAA8GBB8GABmHAB8GAEmHAA8GARmHAA8GCFmHAA",
     "8GADmHAAqHoCAHPAJmBAmHAA8GAGmH2BBJ6BAHLBJjCAH4ECmHBABAE8GABmHAD8GAAmHBGBEA8GGAmHDBmHmGBmHAA8",
     "GAGmHAA8GABmHAAqHAA2GAA8GAAqGAkBmHAAoHABkHAA8GAA6GAAmHAApHAA8GAAmHAA8GwWBmHABBADmHACBABmHEAm",
     "HDBBAAmHAA8GAAmHABBAD8GAAmH+/CCmHtEAJgDfmHqRA6GAAkHAAoHAA+GABgHpDBI0udAmHEJmHgBBmHwCBmH0IAJl",
     "BAJ3EAJbRmH5BC8GlBAJ/CAHMAJvHAmHBBmHAA8GCBmHFBmHBAmH0BAJ2HAJw5TAahYGmHAG8GABmHteA8GiHA8G1EEm",
     "Hy0BA8GBAmHoBAmHAABAA8GEAJlFAmHAA8G9RDmHhCEmH9JBmHtCB8GBC8GmCB8GACmHAA8GAAmHAD8GxBAmHAA8GAAm",
     "HAA8GgGAJpBAJOAJ5BAJAAHlCCmHwBBJ+BAHsCAJJAHqDAJAAHyFAHAAJwCBHQAJYOmH5CCJxDAJDAHXAmHjDAJAAH7H",
     "AJAAH+DAJ2DAJAAHzDAJtIAJAAHiIBJEAH8EAJzCAJSAJxCAJlNAJiIAHBBJxCAJpNBJsvQAJguCEB7BGmH5lBBGslTA",
     "BmmFB4GACBDAiHAE4GIH8GCEmHAB8GeDmH0ECmH7tDvEmHgFGmH3LAmH9BDmH8PBoHAA8GAAmH+HAmHAA8GzHAmHCAmH",
     "HBmHFAmH6OG8GtDFmHAAH"]

/-- Composed characters with their two parts, as differences in packed digits. -/
def pairLines : List String :=
    ["gHiGgwBBACBACBACBAKBAECE6BBEtCBACBACBAMBIPBACBACBAMCKJBCFBACBACBACBAKDMPBACBACBAMBINCAOCvBHC",
     "AECAkCCEtCCACCAKCAKCCAECPCAECACCAiCCA3BCETCAICACCAgCCCpCECCCACCAECAkCGCrCCCqCDCrCCAsCCA1BGEV",
     "CAsCCA1BFCPCAECAKEGTCAsCCA1BCCVCACCAqCCA1BCC2BCA1BECRCACCAECAICACCA6BCErCCEADCBCAMCAKjBVePMA",
     "enBdCQACMACMACuIPCAFCAWCAXDvBICmUAChUAE9HQCIACI4BC4XnCCuKQBviBAFFVEOBCuHCCCACkBACtJcCAECIDCA",
     "ECIDCAECMDCAECGDCAECGDCAECDqBCCAEXzBINJCIgCCiJlCCBACrIGCgcFCrbA9Ki1BFcxBABIABEABEABkBAajBOBY",
     "ABLNBMABIArD+GKXFLBAQCDNEmCOF3BNBDBBWMZkDSrC9DRPLACAEEKDEoKEClKACCAECHCAICMAE2KAC3JACTHCAICA",
     "GCIFEIApJ4d20BBACBiCABhCCBmCB6E2IACnBARiBA2SslBwuBIQADGA3EoJkIBAyB8LgY+XDAvBBAyBoC2EgI2BoDxB",
     "BCABByB8DgI+H4DyH+HHOABACCAnBBImB/D4HyGBCABByBuEmJmHCAKBGJBFqBoS4kB+kBg3CguFuwFCEACEACEACEAE",
     "IApByCACEADEABCACGA+VhuN/gMCC7BCA4BCAcCqI/CClIMCA4BCAcCATCAMC+K5CCACC7K4CCAGCoczCClcCCCFCCGC",
     "A4BCA1BCA+BCAOCCECsI9CCnIACAkCCAcCCbC28O9BC18O6CCAHCC3CCAMCA4BCC3BCA4BCAcCAHCuI3CCAOCwFPCACC",
     "5NACAMCEACA4BCy+O9BCx+O6CCCzCCA4BCwO3BCMACkwOAC9+OACA4BCAcCAHCCRCAYCAFCoP3CCEOCpPJCAgCCClCCA",
     "CCAOCABCA4BCC3BCACCCBCCJCAiCCAcBjBABYxCBGEBEAIvByBCAzBCiIPCABCASCALC+7OBC75OBCABCASCALC85OGC",
     "3jP6BCAzBCALCqIDCABCASCALC+8OBC/kPOCA0BCMACAzBCqIPCABCASCALCy9OBC3yOBCABCASCALCAgCC3SACAzBC2",
     "TPCABCASCALCAgCCtTlCCAmCCAzBCALHwzBgBBACB+0NnBBCABBCBCABBiEBCAJ30N9CBACB21NnBBCABBCBCALz1NkB",
     "BACBy2NnBBCABBCBCABBiEBCAJv2N9CBACBu3NnBBCABBCBCABBiEBCAJj3N9CBACBi4NnBBCABBCBCAL33NkBBACB24",
     "NnBBCABBCBCABBiEBCAJv4N9CBACBu5NnBBCABBCBCABBiEBCAJ/6NjECIACEACEACMACMACIA0BvBMBADFA8DQMAKE3",
     "DBADBiBHEhBkEBiBAJJ3DBADBMHCTmBBACBI8CBMAPDAkNu8OTBEATEAf4DABIABDA1BiDAFKADGAYwBACEAbuBADOAD",
     "EACGAX1gRACoiRALnBABhhRABEABsiRABCADaABCADGABCAHGABCADOABCADGABCAjB2BABMABCABEAxB9CABCABoBAB",
     "CAHgCABCABCABCA/qDs5Gi2WCEACEACEACEACEACEACEACEACEACEACEADGACEACEAHOABACCGBBACCGBBACCGBBACCG",
     "BBACXpDBKuFAOcACEACEACEACEACEACEACEACEACEACEACEADGACEACEAHOABACCGBBACCGBBACCGBBACCGBBACXpDBD",
     "yEABCABCABCAEWArm1BqtqDj5WbQA21C+rFm7mECEAPUAjE4I6GBCA8QqhBuhBBAyB3B2DkHCEbJOODKO0BkDNCATBAi",
     "BzHuPiPBATCAa8H+PkPBCA9b43Bi4Bp/Ry+jB8+jBBAWBATBWABVCBGBBCABBCgiDskGukGBHABMA"]

def classRuns : List Packed.Run := Packed.runs classLines

/-- The combining class of a character; zero for one that starts a sequence. -/
def combiningClass (c : Nat) : Nat := Packed.valueIn classRuns c

structure Pair where
  whole : Nat
  first : Nat
  second : Nat
  deriving DecidableEq, Repr

def pairsFrom (p : Pair) : List Nat → List Pair
  | whole :: first :: second :: rest =>
    let next : Pair := ⟨p.whole + whole, ((p.first : Int) + Packed.signed first).toNat,
      ((p.second : Int) + Packed.signed second).toNat⟩
    next :: pairsFrom next rest
  | _ => []

def pairs : List Pair := pairsFrom ⟨0, 0, 0⟩ (Packed.numbers pairLines)

def hangulBase : Nat := 0xAC00

def hangulCount : Nat := 11172

def hangulParts? (c : Nat) : Option (Nat × Nat) :=
  if hangulBase ≤ c ∧ c < hangulBase + hangulCount then
    let i := c - hangulBase
    if i % 28 = 0 then some (0x1100 + i / 588, 0x1161 + i / 28 % 21)
    else some (hangulBase + i / 28 * 28, 0x11A7 + i % 28)
  else none

def hangul? (a b : Nat) : Option Nat :=
  if 0x1100 ≤ a ∧ a < 0x1113 ∧ 0x1161 ≤ b ∧ b < 0x1176 then
    some (hangulBase + ((a - 0x1100) * 21 + (b - 0x1161)) * 28)
  else if hangulBase ≤ a ∧ a < hangulBase + hangulCount ∧ (a - hangulBase) % 28 = 0 ∧
      0x11A8 ≤ b ∧ b < 0x11C3 then
    some (a + (b - 0x11A7))
  else none

def parts? (c : Nat) : Option (Nat × Nat) :=
  (hangulParts? c).or ((pairs.find? (·.whole == c)).map fun p => (p.first, p.second))

def compose? (a b : Nat) : Option Nat :=
  (hangul? a b).or ((pairs.find? fun p => p.first == a && p.second == b).map (·.whole))

/-- Takes a character apart; no character has more than four levels of parts. -/
def decompose : Nat → Nat → List Nat
  | 0, c => [c]
  | levels + 1, c =>
    match parts? c with
    | some (a, b) => decompose levels a ++ [b]
    | none => [c]

/-- Puts a mark behind the marks of lower classes that follow it. -/
def insertMark (c : Nat) : List Nat → List Nat
  | [] => [c]
  | d :: rest =>
    if combiningClass d ≠ 0 ∧ combiningClass d < combiningClass c then d :: insertMark c rest
    else c :: d :: rest

def order (cs : List Nat) : List Nat := cs.foldr insertMark []

/-- Composes with the last starter. The marks kept behind it are held in reverse; a character is
shut off from the starter by a held one of its own class or a higher one. -/
def joinWith (starter : Nat) (held : List Nat) : List Nat → List Nat
  | [] => starter :: held.reverse
  | c :: rest =>
    let isShut := match held with
      | [] => false
      | h :: _ => combiningClass c ≤ combiningClass h
    match if isShut then none else compose? starter c with
    | some p => joinWith p held rest
    | none =>
      if combiningClass c = 0 then starter :: held.reverse ++ joinWith c [] rest
      else joinWith starter (c :: held) rest

def join : List Nat → List Nat
  | [] => []
  | c :: rest => if combiningClass c = 0 then joinWith c [] rest else c :: join rest

def normalize (cs : List Nat) : List Nat := join (order (cs.flatMap (decompose 4)))

end PluginFlow.Text.Composition
