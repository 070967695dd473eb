import PluginFlow.Text.Packed

/-!
Characters that cannot be shown by themselves: those without a shape of their own, and those that
attach to the character before them.
-/

namespace PluginFlow.Text

/-- Runs of characters without a shape (1) and of attached characters (2), in packed digits. -/
def hiddenLines : List String :=
    ["AfB/ChBBMABySvDCIBBGDBHABBABUABgHGCmFABmBBByBBBDABAsBCBACBBCBBCBACAHBbDBGQBKKCBABuBUCQAClDGC",
     "AABBFCCBCBDCgBBBBACeaCABB5CKCBNBrBICHBBAACYDCBICBCCBECABBPABZCCABBBABLEBgBGBAICqBXCAABAfC3BA",
     "CBACEHCEACDGCKBCdACCABIBBCBBWABHABBCBEBBAACBACCDCABBCBBCACBHBAACADBCABDBCABBYACABBABCBABGDBC",
     "BBWABHABCABCABCBBAACAABDBCADBABCABBACCACBAACAGBEABBGBKBCDACBJBABCBABJABDABWABHABCABFBBAACEEC",
     "AABABCBABCACABBBOBCBCABBMGBBFCAABAACCABIBBCBBWABHABCABFBBAACBBCBDCABBCBBCACAGBACCADBCABDBCAB",
     "BSJBAACBABGCBDABECBCABBABCCBCCBDCBMDBAACBACCCBDABDACABBBFBAACANBVEBAACDACIABDABXABQBBAACBCCE",
     "ABACCAABADCAGBABCAABDABCBBCBCABBKGBKACLABDABXABKABFBBAACCBCBACCABACCAABADCAGBABCAEBDABCBCABB",
     "KABDLBABCLABDABpBBCBACCDCAABDABDACCDBDACKBCABBaABAACCABSCBYABJABBBBHCBAACADBAACCCCAABAACAABH",
     "ACAFBKBBDLBwBACCGCADBIHCNkBBCABBABFABYABBABKACCICBBBFABBABAGCAABKBBEfBYBCbACBACBACOABkBDBANC",
     "BECBBCFKCAABAjBCAABIACGABNkBBtBDCBFCBBCCBCZBCECCQDCNACCBCGACPACoBABBEBBBB5LABEBBHABBABEBBpBA",
     "BEBBhBABEBBHABBABEBBPAB5BABEBBjCBBACCdCBaFB2CBBGBBgUABcCB5CGBSDCAIBTCCCIBSBCALBNABDABABCALB0",
     "BBCBGCIACCKCJACABBKFBKFBLCCAABAACKFB5CGBFBCiBACBEBmCJBfABACCEBCDDBCACGCCADBBCBqBBBFKBsBDBaFB",
     "LCB5BBCCACABB4BACBGCAABAACBACCHCGJCABBAACKFBKFBOBBAtBCABBALCATBADCwBJCECCIABdICMBCgBDCCFC4BA",
     "CBBCDACBECAHBwBHCCBCACBPCB+BEBrBBBLHBACCBMCBGCEACGACDBCBEBgG/BC2IBBGBBmBBBGBBIABBABBABBABfBB",
     "1BABPABOBBGABTBBDABJQBYHBvBQBCBBbABNCBiBNBAgBCAOBsEDB6UVBLUB04BBB5LCCCEBtBABBEBBBB4BGBCNBAAC",
     "XIBHABHABHABHABHABHABHABHABAfC+ChBBaAB5CLB2GZBQABpBFCQAB2CBBABClDEBrBAB+CAB2CIBwBABtzcCB3BIB",
     "8KTBvBDCBJCgBBCwCBCGHB9GTBRACDACEACZBCFACACBKFB4BHBkCBCAHBMFBARCNACmBHCZKCBACAKBeCBACCwBACCD",
     "CCBCCACNABLDBHACZABpBFCCBCCBCAIBDACIACBBBKBBgBACzBACBCCCBCFBCBACBXBRBCIACAJBGBBGBBGIBHABHAB8",
     "BDB1DACCACEACABBKFBk9KLBXDBxBDBggC/nGBuLBBqDlBBHLBFEBBACYABFABBABCABCABqUfBQPCKFBAPCjBABTABE",
     "DBFABnEDB9EBCfCBGBBGBBGBBDCBHABHMBCBBMABaABTABCABPBBOhBB7DEBDDBtBCB4CABNCBBuBBtBACAhEBdCBxBO",
     "BAACbDBkBIBeEBmBECAEBeABlBDBOpBB+EBBKFBkBDBkBDBoBHB0BKBMABPABHABCABLABPABHABCCB0BLB3JIBWJBIX",
     "BGABqBABJkCBGBBBABsBABCCBBBBXABoCHBJvBBTABCEBhBCBbEBblBB4BDBUBBvBCCAABABCAEBADCEABDABdBBACCA",
     "DBAACJGBJGBgCfBlBBCADBMIB2BCBdBBbEBaGBELBHvCBpC2BBzBMBzBGBqBDCAHBKFBmBCBAECYHBCvGBfABqBABABC",
     "BBBCPBGHBJgBBAFCoBHBWKCJVBSDCElBBcTBXIBBAC2BOCHDBeACCBCBIBACCxBDCCBCCABEACAMBZGBKFBACCkBECBH",
     "CAABSHBjBACDIBABC0BICBACIDCCACQABUKBSABcCCCDCGACCACA9BBHABBABEABPABLFBvBACDHCAEBKFBABCCABIBB",
     "CBBWABHABCABFABABCBACBACEBBCBBCACABBBFBAACAEBHBBAGCACBAECAKBKABBBBBABmBABBACCFCAABAACABBAACA",
     "ABACCBABCCCBACDABCHBABCAcB4BHCCCCBACVABBACDdBwBACCFCBACCACBBCBBCEHBKlFBvBACCDCABBEBCBBCbBCAh",
     "BBzBHCCACBBCEKBKFBNSBrBACBACCHCCFBKFBUbBbBBAACBACCDCBECADBX4FBvBICBBCBjDBzCLBIBBBBBIABCABYAC",
     "FABCBBADCEACDIBKlCBIBBqBDCABBABCEACEaBBJCoBFCCDCIACAHBBFCCCCuBMCBBCJMBpCGBK1CBAACBCCBACB3CBi",
     "BNBKFBJABmBGCAABAFCBACGJBdCBgBBBAVCAABBGCBBCBBCAoCBHABCABmBFCACBAACAABABCAABAGCBACAHBKFBGABC",
     "ABlBABABCAABCACBACBGBKFBsBDBK1HBTBCEGBABCPABkBECACBCCCXACA0CBBOByBMB7clDBvDABFKBkGryCBjDMBwh",
     "BPBAACGOCAJB78DEBnS41GBeLCDCCKl2BB5RGBfABKDBxCABKFBeBBAECBJBwBGCPJBKABHABVEBTvNB6BlGB7CEBZBB",
     "ZrBBrCDBAAC4BGBADCN/BBEACAKBABCFIB2mHoBBgBgDBzD8vIBEABHABCABjJOBBcBDBBBNBEHBsMjoCBrDEBNCBJGB",
     "KBBBBCB/6DB9HCB0NFBXOBROBAtBCABBAWCAIB0D7BB2HJBnBBB8BECDFCAHBAHCCGCeDC9BUBiCCCB5DBULBULB3CIB",
     "ZmEB1CABnCABCBBBBBCBBEABMABBABHABhCABEBBIABHABcABEABFABBCBHAB0KBBkJBByR2BCExBCIACOACHOBAECAA",
     "BAOCAviBBfFBG0GBAGCAABAQCABBAGCAABABCAABAECAEB+BgBBAACAvDBtBCBAGCHBBKDBC/JBeACAQBsBDCKEBBvOB",
     "cDCK1GBeBCLDBB/FBfABDACCACHBCFACAHBC/GBHABEABCABPABlGBBJGCAoBBkCGCBDBKDBCwYBkCrCB9BhGBEABbAB",
     "CABBBBBABKABEABBABBFBBDBBABBABBABDABCABBBBBABBABBABBABBABCABBBBEABHABEABEABBABKABREBDABFABRz",
     "BBCtIBsBDBkDLBPBBPABPABlBJBuF3BBdMBsBDBJGBCNBG5EB5eCBRCBNCB6GFBMDBBOBMDB4BHBKFBoBHBeBBMDBCNB",
     "JmBB4KHBOBBNCBLCB5BABBDBQBBMDBKGBzEABnDkgBBg3pBfB+oEBBu0FBBxpHOBuThtCB+QhvBBr6EEBqpIlkzVBAvH",
     "CAvw/FB"]

def hiddenRuns : List Packed.Run := Packed.runs hiddenLines

def isShapeless (c : Char) : Bool :=
  Packed.valueIn hiddenRuns c.toNat == 1

def isAttached (c : Char) : Bool :=
  Packed.valueIn hiddenRuns c.toNat == 2

end PluginFlow.Text
