import PluginFlow.Net.Idna.Mapping
import PluginFlow.Text.Composition

/-!
Which labels a host name may have: composed, without a mark in front, joiners only where they show,
and in names with letters written from right to left no mixing of directions.
-/

namespace PluginFlow.Net.Idna

def markLines : List String :=
    ["gYvDBzIGBnIsBBBABBBBBBBBABoCKBwBUBQABlDGBCFBCBBBDBjBABeaB7CKB6BIBJABYDBBIBBCBBEBrBCB7BIBqB5B",
     "B2BCBBRBBGBKBBdCB4BABBPBJABKBBaFB4BVBeBBDABLCB4BABBPBUBBWJB4BABBZBKBBeAB7BPBJABoBEB3BABBYBLB",
     "BdCB4BABBYBLBBPQB3BBBBPBJABKBBdCBmCVBSBB9BABCGBMHBiDABCIBLGBpCBBbABBABBABEBBxBTBBBBFvBBJABkD",
     "TBXDBECBBCBCGBDDBNLBBABKDB/VCBydDBcCBdBBeBBiCdBJABnFBBiBAB2DbB7GEB5BqBBwB0CBvBQBmBIBMCBeMB4B",
     "NBwBTB4ECBBUBEABGABCCBmG/BBwWgBB+/CCBtEABgDfBqRFBpDBB0udDBBJBgBBBwCBBwIABDABEABXEBEABzCBByBR",
     "BaRBNABmBHBZMBsBDBvBNBkBABjCNBMABIBBtBCByBABBCBCBBFBBBABpBEBFBBsHHBBBBw5TABhYPBteABiHAB1EEBm",
     "0BOBoBHBlFBB9RDBhCEB9JBBtCFBmCKBxBDB6DCB1BOBpBABCBBKDBtBKBHAB9BCBkBNBQBBsBABMCBwBNBIDBBBB8CL",
     "BGABCAB9ELBVDB3BBBBPBJABKSBjCYBBABOBByCRBXABxCTBrHRBbBByCQBqDMBlDOBgIOB1HOBBABBBBtEPBDABcJBo",
     "BGBBDBIABJKBuBPBmGHBnGQByCkBB6DUBBABiCNB7KDBJBBBABwBOBXABlnFABGOBomLRBguCEB7BGB4gBABBhCBxCNB",
     "rlTBBhzEmCB+QEBDVBCGBeDB0ECB79B2BBExBBIABOABWUBwqBvEBgFGB3LAB9BDB8PDB+HBBzHABCABHBBFAB6OGBtD",
     "GB"]

/-- How letters join their neighbours: 2 on both sides, 3 to the left, 4 to the right, 5 through. -/
def joiningLines : List String :=
    ["gYvDFzIGFnIsBFBAFBBFBBFBAFoCKFFACBDEAACAAEAACAAEAECADEAMCAABAGCAAEABCAUFOBCAAFACEFOCAREAlBCA",
     "AEABCAIEAACAAEAACAAEABCABEBAEAGFCFFCBFBDFABEKCCCACQAEAAFACCAEEADCAAEAICAAEAACAAEAACAAEABCAAE",
     "AaFCAEAKCACEAOCABEADCAAEAACABEACCABEAFCmBKFZgBCAIFGABCAFYDFBIFBCFBEFSAEAECABEAACAAEAJCAAEAAC",
     "ACEACFEACBDCBAEAACAZEACBAACCECAAEAACHIFAJCACEBAEABCABEAFCAAEAOCB4BF3BAFBAFEHFEAFDGFKBFdAF6BA",
     "FEDFIAFUBFaEF5BAFEQFeBFDAFLBF5BAFEHFEAFUBFWHF6BAFCAFBDFIJFLBFeAF9BAFMAFyBAFDAF3BAFBCFFQFLBFd",
     "AF6BAFCAFGAFFBFUBFcBF5BBFEDFIAFUBFdAFoCAFHEF6CAFCGFMHFiDAFCIFLGFpCBFbAFBAFBAF3BNFBEFBBFFvBFJ",
     "AFmDDFBFFBBFCBFZBFECFQDFNAFCBFGAFPAF/VCFydCFdBFeBFeBFjCGFIAFCKFJAFpBACCABV4CCMBFAhBCAAFAAC1D",
     "CFEBFJAFGCF7GBFCAF6BAFBIFBAFCHFGMFwBzCFwBAFBEFBAFFAFoBIFMBFgBDFCBFBCF4BAFBBFDAFBCF6BHFCBF4EC",
     "FBMFBGFEAFGAFDBFmG/BFtQABiGgBF+/CCFtEAFgDfFqRDFrDBF0udDFBJFgBBFwCBFwIAFDAFEAFZBFFAFTxBCAADxC",
     "BFaRFNAFmBHFZKFuBCFwBAFCDFCBFnBAFjCFFCBFCBFMAFIAFvBAFzBAFBCFCBFFBFBAFqBBFIAFuHAFCAFEAFw5TAFh",
     "YPFteAFiHAF1EEFm0BOFoBHFgEECAAEBAEBBECADAEEADCAADAECAAEACCAAECAEABFEDCAAEwEACAAEAACACEACCAAE",
     "ABCAAEAACABEAACAAEXDEABCxKADAgBCAAEAACADFhCEF9JBFVAEABCBBCyBFFwBCCAAEAQCBKFACCAAEbDCABEALCAD",
     "FqBACBBCACEBACABEABCAAEABCBACABEAACEAEAACAAD1BAF2BOFpBAFCBFKCFxBDFCBFHAF9BCFkBEFBHF+BAFMBF0B",
     "IFKDFCAF/CCFCAFBBFGAFCAF9EAFDHFVBF5BBFDAFlBOFmCFFNAFBAFBAFOBF1CHFCCFBAFXAF0CFFBAFEBFBBFuHDFG",
     "BFBBFbBF1CHFCAFBBFqDAFBAFCFFBAFlDAFBAFCDFBEFjIIFBBFgIBFBAFEAFwEHFEAFgBJFoBFFCDFIAFJFFCCFuBMF",
     "BBFmGAFBCFBAFpGNFBAFyCVFCGFBBFBBF6DUFBAFoCBFDAFBAF7KBFLBF0BEFFAFBAFXAFlnFAFGOFomLLFDCFguCEF7",
     "BGF4gBAF/BDFxCAF4lTBFhzEmCFgRCFRHFCGFeDF0ECF79B2BFExBFIAFOAFWUFwqBvEFgFGF3LAF9BDF8PDF+HBFzHA",
     "FCAFHBFFAF6OGFrChBCAHF"]

/-- Directions: 1 to the left, 2 and 3 digits, 4 neutral, 5 marks, 6 none; 0 to the right. -/
def directionLines : List String :=
    ["AIEAEGANEAEGAOEAJDAmBEa8CEfAEhOBEHNECbEBQEAvDFFAEgEAEsEGFgIFEBsBFAABAAFAABABFAABABFAABAAFIkB",
     "BRBEAABABEAABAAEAABABEAKFAvBBAUFAJCAAEABCACBAAFAkDBAGFBAEAFFABBABFAAEADFABBAJDAWBAAFAdBAaFC4",
     "CBAKFA5BBAIFABBADEAABCAFAXBADFAABAIFAABACFAABAEFCoBBACFCxBBHIFApBBA4BF3BAFBAFEHFEAFDGFKBFdAF",
     "6BAFEDFIAFUBFOBEHAECEF5BAFEQFeBFDAFLBF5BAFEHFEAFUBFNAEIHF6BAFCAFBDFIJFLBFeAF9BAFMAFlBHEFAFDA",
     "F3BAFBCFFQFLBFUGECAF6BAFPBFUBFcBF5BBFEDFIAFUBFdAFoCAFHEF6CAFCGFEAEHHFiDAFCIFLGFpCBFbAFBAFBAF",
     "ADEzBNFBEFBBFFvBFJAFmDDFBFFBBFCBFZBFECFQDFNAFCBFGAFPAF/VCFwBJEmDAE6UBE1DCFdBFeBFeBFjCGFIAFCK",
     "FHAEBAFSaE6DBFiBAF2DCFEBFJAFGCFEFE4EhBEXBFCAF6BAFBIFBAFCHFGMFwBzCFwBAFBEFBAFFAFoBIFMBFgBDFCB",
     "FBCF4BAFBBFDAFBCF6BHFCBF4ECFBMFBGFEAFGAFDBFmG/BFsQ1FEOgBFTpCE8BrNElCZEB1YEByKEgI/XElHFEECFHG",
     "E/DAFgDfFAkQEDYEJDFCAEGAEFCE5CBFFAE6CAEkGlBE6+G/BEw0V2BEmKCE/CDFAAEAJFABEeBFwCBFOhBEmDAE5DAF",
     "DAFEAFZBFBDEAAFLBE6BDEsCBFaRFNAFmBHFZKFuBCFwBAFCDFCBFnBAFjCFFCBFCBFMAFIAFvBAFzBAFBCFCBFFBFBA",
     "FqBBFIAFzDBE5DAFCAFEAFw5TAFzEQBA8REgBPFVBEsBABtUAE+BsCEDQE8CAFiHAFAaD6DEFlkB7IBDAEAgHBAOFAlB",
     "BCHFAkFBABFEqCBDGEAjPBADFIJCGPBZEFAAEAWBIBEwGeCBpBBBBFAaBIIEhBFFAlCBAKFAwBBADFAwDBKAF2BOFLTE",
     "KAFCBFKCFxBDFCBFHAF9BCFkBEFBHF+BAFMBF0BIFKDFCAF/CCFCAFBBFGAFCAF9EAFDHFVBF5BBFDAFlBOFmCFFNAFB",
     "AFBAFOBF1CHFCCFBAFXAF0CFFBAFEBFBBFuHDFGBFBBFbBF1CHFCAFBBFfME+BAFBAFCFFBAFlDCFCDFBEFjIIFBBFgI",
     "BFBAFEAFwEHFEAFgBFFCBFoBFFCDFIAFJFFCCFuBMFBBFmGAFBCFBAFpGNF0CVFCGFBBFBBF6DUFBAFoCBFDAFBAF7KB",
     "FLBF0BEFFAFBAFXAF6DcEuiFAFGOFomLLFDCFguCEF7BGF4gBAF/BDFvCAEBAF4lTBFh7DwXEPmCFgRCFRHFCGFeDF7B",
     "4CEACFAAE6F2CEp1B2BFExBFIAFOAFWUFwqBvEFgFGF3LAF9BDFPAEsPDF+HBFzHAFCAFHBFFAFqIvGBAGFrChBBAGFA",
     "yfByN/RE9BCE9BAEyF6sCE"]

def markRuns : List Text.Packed.Run := Text.Packed.runs markLines

def joiningRuns : List Text.Packed.Run := Text.Packed.runs joiningLines

def directionRuns : List Text.Packed.Run := Text.Packed.runs directionLines

def isMark (c : Nat) : Bool := Text.Packed.valueIn markRuns c == 1

inductive Joining
  | none
  | dual
  | left
  | right
  | transparent
  deriving DecidableEq, Repr

def joining (c : Nat) : Joining :=
  match Text.Packed.valueIn joiningRuns c with
  | 2 => .dual
  | 3 => .left
  | 4 => .right
  | 5 => .transparent
  | _ => .none

inductive Direction
  | rightward
  | leftward
  | arabicDigit
  | digit
  | neutral
  | mark
  | other
  deriving DecidableEq, Repr

def direction (c : Nat) : Direction :=
  match Text.Packed.valueIn directionRuns c with
  | 0 => .rightward
  | 1 => .leftward
  | 2 => .arabicDigit
  | 3 => .digit
  | 4 => .neutral
  | 5 => .mark
  | _ => .other

def nonJoiner : Nat := 0x200C

def joiner : Nat := 0x200D

def viramaClass : Nat := 9

/-- Whether the nearest letter that is not joined through is one of two kinds. -/
def reaches (kind : Joining) (cs : List Nat) : Bool :=
  match (cs.map joining).dropWhile (· == .transparent) with
  | j :: _ => j == .dual || j == kind
  | [] => false

/-- Whether a joiner may stand between what is before it, in reverse, and what follows. -/
def joinerAllowed (before : List Nat) (c : Nat) (after : List Nat) : Bool :=
  let afterVirama := match before with
    | b :: _ => Text.Composition.combiningClass b == viramaClass
    | [] => false
  afterVirama || (c == nonJoiner && reaches .left before && reaches .right after)

def joinersAllowed (before : List Nat) : List Nat → Bool
  | [] => true
  | c :: rest =>
    (!(c == nonJoiner || c == joiner) || joinerAllowed before c rest) &&
      joinersAllowed (c :: before) rest

def isLeftward (c : Nat) : Bool :=
  direction c == .leftward || direction c == .arabicDigit

def directionsAgree (label : List Nat) : Bool :=
  let ds := label.map direction
  let last := (ds.reverse.dropWhile (· == .mark)).head?
  match ds with
  | [] => true
  | .leftward :: _ =>
    (!(ds.contains .rightward || ds.contains .other)) &&
      (last == some .leftward || last == some .digit || last == some .arabicDigit) &&
      !(ds.contains .digit && ds.contains .arabicDigit)
  | .rightward :: _ =>
    (!(ds.contains .leftward || ds.contains .arabicDigit || ds.contains .other)) &&
      (last == some .rightward || last == some .digit)
  | _ => false

def labelAllowed (label : List Nat) : Bool :=
  Text.Composition.normalize label == label &&
    !((label.head?.map isMark).getD false) &&
    label.all (fun c => isKept c && c != 0x2E) &&
    joinersAllowed [] label &&
    !("xn--".toList.map Char.toNat).isPrefixOf label

end PluginFlow.Net.Idna
