import PluginFlow.Text.Packed

/-!
What a character of a host name stands for: itself, nothing, other characters, or no name at all.
Upper case and compatibility forms stand for the plain lower-case characters.
-/

namespace PluginFlow.Net.Idna

/-- Runs of characters with their kinds and targets, in packed digits. -/
def mappingLines : List String :=
    ["mM/EgC+GhGKBgCqBKCAwuBGKBtqBMIGKChEouBMP/HQCnuBiuBB2LMWC35BuwBBrvBB8DGWD7DmhQ/gQDFmhQjhQDCih",
     "Q/gQGtEgCGtBgCmGlJKCqD8pBGWC7pBCCBCB2MGKBEMpBWC1M2EC1E2EB2IGpBQC0X7kBB6NGtIQB3EB2HGdKBtQGQBg",
     "eB/MGKBEGQB+MB3MGP6MKBIMcBiFB4HBEBxMGQB8MBGGWBMBBB9MSQBsNBGGQBGBnNGdQB+NBvNGKB2NMKBrNGQB2NBv",
     "NGPyNdQBkOBxNSKBIqBgCCxV0RCzR0RCzR0RCjRDCEDCEDCIHCIHCIHBoWG5CGxDGcCzWsBCrBsBCrBsBB2XGWB/FB0C",
     "B0DGpHKB1FGxDkBQBusVBxiVGQBjKB4sVMKBniVGcBjMByQBGBpEG1BgS6BB9dB8fB3fBQBugBBEBMBzgBBE6FoBCxFs",
     "uBCruBuuBCtuB0uBCzuBwwBCvwBmuBCluB2uBMiBBvKBtfBOBKB6hBiRP/DGWB8HCVNBwL2BIgGdKB/PGKB8LGNKCt1B",
     "y5BSQB73BBw7BZcCl9BiuBDhuBwuBNB2KBpvBVqCHKBqxBHP+DGpDgCH5BgCyG0BBWBpCBMBaBQBDBJBLG1EWBLBOBEG",
     "QBVBFGKBmEGQBpDBwDMVjIjDgFjGgCgJxGwBpKQBoNBZGtCGlSHnHgDN0IKCmK6BSNSHqKxBiFZkBnDkEHwQcCqK6EC3",
     "C4CCmFlFCzC0C4SHgJNiLN+S1CiLNmJN6CHoFNGHiCfgGrBiOH+V0BCiqBuCCrCsCCpCqCC/BgCC1B2BCzB0BChBiBCZ",
     "a4GHwBNMNkEHqBHGTYN2BNMNYxBGZQCqG2BCzB0BHKCZaYN2ENSHkBZMNkEHqBHGKCsHUHGKCHIHMNGHeZMNSTGrBWCr",
     "CsCCpCqCC/BgCGHKChBiBrBmD9BSH2BHSHkEHqBHMHeN8BHSHSNG7CYNoCrBqBHSHwBNMNkEHqBHMHeN2BNMNSrBSZQC",
     "qO2BCzB0BHeNsD9BMHkBTSHYTMHGHMTMTSToCZeTSHYNGlBG1C+DfuCHSHqEHgDN2BHSHYrBMHSHMNYN8BrBkEHSHqEH",
     "8BHeN2BHSHYrBMfSHYN8BHSpCuCHSHyJHSHkBZgDN8EHSHsDTwEH2BHGNqBTGZkBHGHwBlB8BNSpCsJKCixB1BqBZuF/",
     "GMHGHeHwEHGHoCKC2J1B8BNeHGHqBH8BNQCNjBCkBTMhGoCKB0GkKKCuDqHYHYKC1G2GYKCrGsGYKChGiGYKC3F4FoCK",
     "CtHqHSZMKCnECGiBCBGC8DjDDkDhEeCmDlDDmDjEeqBKCdemDKCkBqCYHYKC1B2BYKCrBsBYKChBiBYKCXYoCKCtCqCS",
     "H6CHuC/GgenHgmOHKBk3OfKBMNoIKBhlOsSOwrBHYNqBHGHYN2HHYNmGHYNqBHGHYN6CH2KHYNyMNgGT8ElBkQNnBPNg",
     "4DHoFT2QrBkE3BwE3B4DpCuCHSHMpC4JOwHN8BlB8BlBiCgB8BlB2QrBiIfkN9B6FHoCZoCZGT8HNejCoIZ8ElBiCT0L",
     "NmMHuFNiClB8BlB0CN0INoC5DuOHkfxBoLT6CTyJgCBzqGBEBUBGBCBABQByBBw+wCBh8kCGflI/7FNV/7FwBxBiIfoI",
     "WBxiOBqIBnIGP3sOKB2XzB3sOGwDB7WBobBlbBEBEBCBEBrBB+eBCBirNB/pOBEBCBofBEBCBpfG4CBIBEB8NB3NBqeB",
     "ksNBCBtqOBIBCBwqOB7qNBxfB+qOV16MPz5M6BB3rOBSBGBCB4zBBCBcBKBCuCKBsHsG6BB1eB9eBkfBpWB4WBrfByfB",
     "EBIV3zNuBBsxNB7tNB/CBwxNBruNB7CBBb3zNgCBQBUBCBvNB8NBCBkpNBhpNBCBjhBV3yNKB8zBgMpcYQCt1B6lBBm6",
     "NMKBj4OGlSwBzBPkBNnBPNwBzBPwBzBPkBNnBPNwBHKBknPHKBEHKBEHKBEwBzBPGKB16NGKBCGKBCGKBCGKB6BGKBCG",
     "KBCNkJCkzNt0NCw0Nv0NCy0Nx0NC00Nz0NC20N10NC40N30NC60N50NC80N70NCu0Nt0NCw0Nv0NCy0Nx0NC00Nz0NC2",
     "0N10NC40N30NC60N50NC80N70NCu2Nt2NCw2Nv2NCy2Nx2NC02Nz2NC22N12NC42N32NC62N52NC82N72NCu2Nt2NCw2",
     "Nv2NCy2Nx2NC02Nz2NC22N12NC42N32NC62N52NC82N72NCu6Nt6NCw6Nv6NCy6Nx6NC06Nz6NC26N16NC46N36NC66N",
     "56NC86N76NCu6Nt6NCw6Nv6NCy6Nx6NC06Nz6NC26N16NC46N36NC66N56NC86N76NMWCu7Nt7NCPQCZaHG4CC6/N5/N",
     "Bu/NBCBhEBn8NCKQCx5BmvBBsKCx5BmvBClvBkyBDjyBwuB0DCkjO17NCDECVWHG6BC6gO5gOBy7NBp8NBu8NBr8NCSE",
     "Dx5BmvBlBD/tBmvBjBDhuBmvB+CSKB8ENMPPQBs+NBt8NHWD94BovBnBD/tBovBlBDhuBovB8CSKB8GYPPoBB08NB56N",
     "BwhODp8PwuBPD/tBwuBNBhqBNWC4xPl8NCgBfCqBpBHG0BC6jO5jOB+7NB36NBg7NB76NCJfCx5BiuBChuBovBHmCBnv",
     "BBABABABABABABABABABAIMNGKBg/PeKC/+PmxBoCTGrBKBlxBSQCkhQADAAAGQCGADAAAYKCnhQAGKCBquBwBWCrsBA",
     "CA7BCA8BuCKEm/PAAAqBKBjhQgBfmBQBgBByDNnB/jQoBB7DBu+QBp9QBpBBCBqE/B/kQiBBlEBu+QBp9QBpBBCHoBBw",
     "DBIBUBSBieBhfb1iQWBQBGBCTwBKCDC2E1CmG7CcDjBjDoDDDjDoEBfC6E5EGWDAnDgEDXnDsEBseGmCC1azEBCBCBAB",
     "ABAB+LB7LBABGBAGQBECACMVxqQQBGBAMWCCLDOdOCQNGKBaGKB+0BGKB90BGcBdB0HBlIBCGoBBEBABCBwuQBhuQBEb",
     "p2NKBLGoBDFJuBBw0BBZBABaBilPYiBB56QBABCBIBCkBkJDxDmhQ5gQDLmhQ1gQEPmhQlhQBDCmhQhhQDBkhQhhQDDm",
     "hQ9gQDFkhQ9gQDDihQ9gQDBghQ9gQDHmhQ7gQDB+gQ7gQDJmhQ3gQDJihQ3gQDF+gQ3gQDB6gQ3gQCNmhQB19PCAADAA",
     "ACAaBACAZDaZAEaZAACAeBACAdDedABGBRBCBSBHCAADAAACAaBACAZDaZAEaZAACAeBACAdDedABGBRBCBSSKBuxQeK",
     "Dn1QohQhhQMZodQCw/QADAAAGQCGADAAAwuBP+tG6vBlEiC/D5B9iS+FC5/QBCCACACCBECDGCFICHKCJMCLOCNQCNDD",
     "PSPDBURDBWTDBYVDBaXDBcZDBebDBgBdDBiBfEBSBNEBSAPEBSCREBSETEBSGVEBSIXEBSKZEBSMbEBSOdEBSQfEBUDN",
     "5DgFDByDvDDB0DxDDB2DzDDB4D1DDB6D3DDB8D5DDB+D7DDBgE9DDBiE/DDBkEhEDBmEjEDBoElEDBqEnEDBsEpEDBuE",
     "rEDBwEtEDByEvEDB0ExEDB2EzEDB4E1EDB6E3EDB8E5EDB+E7EDBgF9EDBiF/EDBkFhF/EplS/E9mSKBOm2HKE2/QAAA",
     "qTWDh/QAGCAADAAA+SKCgqVp6TqcN8ZjJgDgJKByyUGWBr/UBkxNB/vNMpBcB3CBgCBhCBEGKBiiVMKBGkBiBB3gWBYB",
     "ycBCBikVGxSqBdSKBkHGfuIHGfGNwKrBKB8GG1CwE3BqBHqBHqBHqBHqBHqBHqBHqBH0XtG8EHYKB4mfyPKBk9ZpCooB",
     "B95oBBwCBcBSB0BB4CBOBoBB0BBqoBBsCBMBuBBoBBqBBqDBqBBWB2JB8FB4BBKB8BBSB2BBaByBBoDBkBB2BBovBBwE",
     "B4cBuBBQBWBkBB4EB6dBgDBwHBuBBmBBsBBsDBGB0WBUBYBaBoHBQBKBqHBUBaBQB6DBiBBkBBgFBqkBB8CBqBBouBBK",
     "BmFBgBBaBqBBuCBKB2QBwBBgCBw/BBkEBuBB0DBwBBSBOBoDBKBgCBujCB+bBYBKBIBQBkBBEBiFBwNBKBmVBUBkDBOB",
     "SBQB2FBOBoOBOBiDBiBB+CB6OBOBiBBuUB8HBMBsLBuFB8CB0XBqIB8jBB2BByDBmDBoEBWBMBiCB4EBUB0VBOBSBSBg",
     "BBeBIB+EBIBMBq9BB8BBqdBYBuBB2RBaBuEB8CBujBBeBeBmCBqCBuMBYBmEBwPB+BBiNBqBBKB4NBwLB6HBMBKBs6BB",
     "SB4JB0JBGB+CByGBaBIBOBkGBkCBMBcBuKBmDBIBuLBGBmBB4PBgDBOBsEBUBGBUB8BB2YBgZBUBsCBsBBQBUBIBwCBI",
     "BiBBKBaB2BBeBQB2DBeBI9HKB/3vCGKBcyJKBo+XGWB+yRBGBCeHkQNMQCpypBynYCxnY0nYMKCjBE6RKCyCqBfiIHPh",
     "jQcB7xPBvKB0KBCVnjQnBz4PKBlJV1jQKBO/B3jQhE7+PIPhlQP/5P+CB2KBEBKBIBEB5LBiMBEBjMBCBEBEBCBIBEhB",
     "5kQuBBSBIBUBOBKBqKBCV5iQPlgQoBBzGBSBCBEBUBGHM4CB+leB4IBlIBktEBhtEBmCBjCBuyTBxtTB/DBvBBwyFBxf",
     "BrnEkN9BgD+FDjpnBwtIttIDB0tIxtIDB2tIztIDB6tI3tIDB8tI5tIDB+tI7tIDBiuI/tIDBmuIjuIDBouIluIDBsuI",
     "puIDBuuIruIDBwuItuIDByuIvuIDB0uIxuIDBw91Ct91CDBgn4C9m4CDB4r5C1r5CDBo17Cl17CDBg68C958CDB4+9C1",
     "+9CDBoogDlogDDB4xiD1xiDDBw2jDt2jDDBggmD9/lDDB4knD1knDDBwpoDtpoDDBoupDlupDDBgzqD9yqDDBotkDltk",
     "DEB4/iDge19jDEB4/iDgqI1prDH0HDBw9mBt9mBDBomnBlmnBDBi+mB/9mBDBmrrBjrrBDB4mnB1mnBDBq0oBn0oBDB2",
     "9mBz9mBDBm0oBj0oBDBqjnBnjnBDByxpBvxpBDBguzB9tzBDBmk4Bjk4BDB4g2B1g2BDBgwzB9vzBDBy6oCv6oCDBuvr",
     "BrvrBDB67yB37yBDBkg0Bhg0BDBiuzB/tzBDBsx8Bpx8BDBq+pBn+pBDBil5B/k5BDBynmCvnmCDBqz8Bnz8BDB4opB1",
     "opBDB2rnBzrnBDBolqBllqBDB8ztB5ztBDB2r7Bzr7BDBytnBvtnBDB+pmC7pmCDB4ypB1ypBDBq08Bn08BDByunBvun",
     "BDBk8gCh8gCDB28gCz8gCBsyqBB6yEB2wDBwgLwB2DD9x9BIdClDBCCACACCBECDGCFICHKCJMCLOCLFCGDCEBCCACAC",
     "CBEB2sIBEBCV71QWBMBEBChB11QqDBovtCBwpCB4kBBwpCB4kBB4kBBwpCBwpCB4kBBwpCB4kBB4kBB4kBB4kBC/xEv1",
     "PC4hOnaBvKG8SB/q8BB4IBlIBktEBtkEBytBBz2BBw2BB7wBBouCBu8JBm2EBtjCB3wCByqVBjrdBssHBqkBBhSBqjJB",
     "hzSB4mPBwiNBn0JBxqTBoyTBhqCBn8NBsvbB9zfBskBBw3MB6xVBnvkBBwoBB08MBx1OBmCBjCB29HBl/EBvLB4lEBhD",
     "B63NBj+TBs8eBl3cBw8CCxusBGCFICHKCJMCJHCIFCGDCEBCCACACCBECDGCFICHKCHJCCutzBCrtzBstzBCptzBqtzB",
     "CntzBotzBCltzBmtzBCjtzBktzBChtzBitzBC/szBgtzBC9szB+szBDttzBBwtzBDttzBAutzBDttzBCstzBC/pzBBDD",
     "aVCDiBDTQfB8jYBEBEBEBEBCBEBEBEBEBEBEBEBEBEBEBEBGBEBEnBzhBcBUBGBGBGhB/gBQBSBEnB5gBb3gB2kBC8/O",
     "w6CEz+R+C2CnDErCyErBnDECiFxBvDDA0FhBEtEuCwClEDX+EjDD1BG0EF1EiBT6ElDEhCoFhFiFDjFyEzDDdkF3BDpD",
     "NsEE9D8DrCKE5BkEFkBD/EiEMDtEuEpBC/CDDE6BiDE9EwDKkBE7E6D1C4DC9EgEF/DgE5DyDRGlDgEX2BnDmCF7DgEE",
     "3CKDvByDRF/CyDRvB2CFnE4D9CvByEE7D8De9CD3B2ElEDLwDhCDtByE9BEvChBW4DFrD8DjD2D3BExCmDSlEDWwDjDD",
     "LwD1CDP4DlECcfCkBkCClC2CCxCIDAVKDO1CgCFa2ChEwD1CDS2CvDEY4CfBFtBjDuBemCDtBpC4DCtBhCCgCwBFrBnD",
     "wErCMEYjDyFnDFclBXfoEDrBoBUF1BxCgB6DhBChB5BD6BdODMmBtCDsByBzDDiCkCnEDiCmC5DE8BxD+E1CDoBelCCm",
     "BwBDrBsBzCDkBiChBDfiCREpBzDW8DDdzDuEDZ1BYDea3DF+CqB3DgDYEnB/C8DMCnBWFVWzB4ChBCTpDEqDpD4B2CEj",
     "B2BnDmCDNwBlDD2BwBhBDJnEiFERtCKmCCBBDEtBwCEhBiBrCqBCCXFYO1CrBiEDH3CKCvpYyo4BCvo4Bwo4BCto4Buo",
     "4BCro4Bso4BCpo4Bqo4BCno4Boo4BClo4Bmo4BCjo4Bko4BCho4Bio4BC/n4Bgo4BDvo4BByo4BDvo4BAwo4BDvo4BCu",
     "o4BDvo4BEso4BDvo4BGqo4BDvo4BIoo4BDvo4BKmo4BDvo4BMko4BDvo4BOio4BDvo4BQgo4BDto4BDyo4BDto4BBwo4",
     "BDto4BAuo4BDto4BCso4BDto4BEqo4BDhl4BQdCGFCAoBDlBBiBCFOCLZCCSDRS1DDkDSzDCsDYC8/uB65BC6hCh6IC2",
     "pC4jJCp1C6qDEhpC1xEp/HoiVC7s8BdCaZC21B11BCYXCUTCURCWVCKJDCDWEBPDWCITCQPCs1Br1BCs1Bp1BCMLCIHC",
     "CkBDdFkBDZJkBDlBCkBDLXkBCk0B/0BCCBCPQCBCCLOCCBC+0B90BCAACTUCDEDAA1DDiDU1DC2D1DDyDE1DD2DAzDDg",
     "DUzDC0DzDDwDEzDD0Dw6Qj6QELw6Qj6QhEC8DdDUKdDYGdDMSdDiBhBGFchBGi7Qj6QGBhBGi7Qj6QhEC8DGCJKCy0Bx",
     "0BCLMCFMCPQCs0Br0BCRSCVWCRSCLOCRSCq0Bp0BCTUCXYCTUCX81BC31B41BHcCt2BeCbACACEBk7Qz6QHHkDCFDCKk",
     "BChBNCOQCNKCFACAECDSCPCCBEDDGPCKYCVVDWHGDCEFCIPHuHDQAFCGECCBCCGCCpBDoB+5Qv6QDXo7Qv6QC3Do7yBC",
     "l7yBm7yBCj7yBk7yBCh7yBi7yBC/6yBg7yBC96yB+6yBC76yB86yBC56yB66yBC36yB46yBDn7yBBq7yBDn7yBAo7yBD",
     "n7yBCm7yBDn7yBEk7yBDn7yBGi7yBDn7yBIg7yBDn7yBK+6yBDn7yBM86yBDn7yBO66yBDn7yBQ46yBDl7yBDq7yBDl7",
     "yBBo7yBDl7yBAm7yBDl7yBCk7yBDl7yBEi7yBDl7yBGg7yBDl7yBI+6yBDl7yBK86yBDl7yBM66yBDl7yBO46yBDj7yB",
     "Fq7yBDj7yBDo7yBD73yBLWu6oFTqK3BohC5D5IsDtFQB89BBE8QxBsG5CM5LKBmyxCwBdQBr/kCBsglCG1BSKBaGKBty",
     "yCMdM9DiBBCBTBKBWBDGiBBoDBtBBsBBsr0CB75BG5CcBhCBjxyCB4wNB0jlCGKBEGQBr2yCBy2yCG5CKBjjzC5DiBBv",
     "SBfBGBWBq4zCMQB9szCB4CyJT8BlBwKxBkNxBoClB4VjC0FT0OHiCZmGHqK3B0CN8BNqTxEoF9BkBNkBNkB3BqBHqBHo",
     "IcBo9yCBghCB3s0CBuu0C2BKBps0CMZjP/8rC0IN8BlB4uhCpCqEZmJ5wxB4yBB27kCBn1SBs9TBjgBBt/OB9pQBm7CB",
     "u7lBBAB1kjBBgocBzkeBi8BB8qEBmnKB4xEB0rDB2XB8TBu5DB5oTByxBB87BBqwBB+lIB6yGBuoEB92lBBmvCB+4LBu",
     "xDBkhKBi/LB7sgBB2pJBk+KBu5BB1pTB+wPBukDBp1UB6kEBmlDBk5CBk9OBv0gBBijBBuSBs+IB+gDB6zDButCB0xEB",
     "qgDBsFBm5DBm0EB6jCB2oBB72SBmPBiiCByiDB2zHB23FBx6JBt/YBqiDB41OB8hCB3hHBwmDBw/JBqjFB9hfB04BBi7",
     "GBu8BBqTBgiHBwQBohMBx3hBBy7WB9qXBfBglUBk6BBmjDBooJBpvFBhrUBmzDB4vQBpseB86GB2iCBq3JByeBxlRBo+",
     "SB3zUB0+HB35IB+rPBn1DB06LB91UB2pCBmqPBw0GBimDB/uPBs/RBvyRBz4EBu+PBp0PBq8IBtrTB2rBBgGBwrLBsmK",
     "Bw4CBmmEB6vDBztfB6UBizCBy3CBytDByjFB4yEBmoOB6rCB6iCBuDBljmBB2iKBirCB2+RB7uYB4xBBgHB0pBByoFBs",
     "iBBg0BBi0CB0iCB2nBBurHBvjFBqzFBuyBBlzgBB4IB0hBB2gOB0/LBweBh+VB4SBs4BBmjEBgpIBxsEBhpSBqhEB8uC",
     "BmdBkmBBs5JBuLBizFB4KB8+IBksCBkFBgNB5okBBmiVBsgMBowCBt9aB1lJBolBBoxFBiFB01EBymCB48DBonCB0rHB",
     "g4FBixHBpwcBs6XBp6hBBkvKBwHB80CB2VB62CBgVBkxBBqqCB80NBhvjBBisIB0kaB5kjBB8uGBitIBg0QB95XBybBm",
     "tDBg3FB+vRB5liBBseBslEB86EB2TB0VB6jCBiyDB4dBu5EBs1EBkBB2uEBsxCBl6hBB23NB5pNBm7OBwsBBk2IByqIB",
     "o7CBwkBBvwbBojDB6hKB5xDBqFBkXBj9EBtiBB+rNBvpeBsnaB3vYBlDB+pGB6iCBmgNBh1QBy5IBzmDBuoUB9uDBigH",
     "BjsGBvrVBl5GBgoCMKB0pBGKB0hHMgCBrpKB40QBg6BBknBBkCBOB0CBu8OBvpNB+vBGKBqlDGKBsuCMQBg0CBqMS8MB",
     "k/DBaB4CB4oCBrtGBy9CBxwjBByTBsGB4XB2BB6GB4kBByGBkGBwdBwGB47BBUBsiCBoNBsCBoGB61BBmJB+KBofBkvC",
     "BmKBwQB4kBB6LBufB+mCB6KBWBBBQBMBOBgDBCBkLBiEB+TBojBBqBBwDBiTBmJBweB4IBAB8dByrCBsIB2WBwDB0ZBq",
     "DB8qBBkIB2qDB4RB4DBr8bBynxHBrtgHNgUBj/ZB+4BB5EBveBqcB2DBuUBmDBmqBBvEBoEByEBwnBByFBiJBgBB8QBs",
     "MB06BBOBgJBoEB2SBsHBrEBsIB7CBkJBkEBgZBwFBsDBoQB8RBmKBIB2DBmiCBiEBuYB0ZBfBuFB4PBgVByjDBj3CB0H",
     "B2HBuUBqJBqDBkOBEB2KBiBByBBsFBTB4YBqeB+QB2LBgOByJB0UBuMB60BB6JB04BBwcBqEBgBBySByDB5CBsDBFBhB",
     "B4EBiFB8XBgjBB0TBuSB6NBsgCBuGBmHBqIBoCBYBgDButBB0oCB8qkGBLBi5FBvj8HB2nCBiCBghpIBuoFBmgRB/4vH",
     "B2ElHuBCvyvCACAGCFMDLAGDFAMCOCCBCpCiBCgwCECDdCeRCmBPCDNfKC4GpCGiBC8D1DB2CBjBBGBCVx06DkDBoBBE",
     "B97CC87CvCCwCtCDuC5CKDwC5CMCcxBCyBvBCwBnBCqBpBCsBrBCuBtBCwBvBCyBxBC0BzBHiBC4B3BC6B5BC8B7BC+B",
     "9BCgC/BHKCkCjCHQCoCnCCqCpCHQCuCtCCwCvCHsUC0CzCC2C1CC4C3CC6C5CC8C7CCyB3BCwBjBC4B3BCqCpCCiBYBq",
     "JBABUBABABABGBABABABEBABABABLBABABABKBABABABLBABABAB2CBABABABEBABABABjCBABABABBBABABABGBABAB",
     "ABCBABABABMBABBBABEBABLBABgBBABNBABwBBABABABMBABABABIBABABABDBABABABSBABCBABABABKBABCBABABAB",
     "FBABABABoBBABCBAmGmkCBrCBABABAB0BBABBBABEBACBlFBuFBABLBABIBABOBABABABtIBAClCCCBCCB+KC9K+KC9K",
     "kCCjCkCCjCiKChKiKChKgKC/JgKC/JkKCjKkKCjK0KCzK0KCzK0KCzKmCClCmCClCmCBmIBABABACrKMCLOCN+BC9BmC",
     "ClCoCCjCICHKCJMCL6BC5BiCChCkCC/BECDGCFICH2BC1B+BC9BgCC9BCCB0BCzB8BC7B+BC7BCCByBCvBBCCwBCtBDC",
     "EBCCuBCjBNCOLCMJCKkBCfPCQgBCdTCURCSPCQeCbTCUcCZaCXZCaYCVbCcWCHpBCqBnBCoBlBCmBICHQCPSCPpBCqBG",
     "CFOCNQCN3BC4BtBCuBrBCsBpBCqBCCBECDMCLOCLvBCwBtBCuBrBCsBCCBKCJMCJxBCyBvBCwBtBCuBACAICHKCHzBC0",
     "BxBCyBvBCwBBCCGCFICF1BC2BDCEECDGCA7BC8B5BC6B3BC4BJCKBCCACzBgEC9D+DCtCuCD/kD4iDKDhjD6iDIDhjD8",
     "iDGDhjD+iDEDhjDgjDCDhjDijD+BCzEWCVYCX+BC9BgCC/BmCClCoCCjCSCRUCT6BC5B8BC7BiCChCkCC/BOCNQCP2BC",
     "1B4BC3B+BC9BgCC9BMCLOCN0BCzB2BC1B8BC7B+BCRQCPSCPOCNQCN3BC4BCCBECDMCLOCLCCBKCJMCJ7BC8BACCpBCq",
     "BnBCoBBCCACAGCFICBuCCrCxBCyBvBCwBJCKHCIBCCACnCMCLOCNQCP+BC9BiCC9BICHKCJMCL6BC5B+BC5BECDGCFIC",
     "H2BC1B6BC3B0BCxBCCByBCvBBCCwBCtBDCEuBCjBNCOLCMJCKkBCfPCQNCOgBCdTCURCSPCQeCbTCWaCXZCaYCVbCcWC",
     "HpBCqBnBCoBlBCmBICFpBCqBGCDtBCuBrBCsBpBCqBCCBECBvBCwBtBCuBrBCsBCCBGCDxBCyBvBCwBtBCuBACCzBC0B",
     "xBCyBvBCwBBCCCCA1BC2BDCEyCCrC7BC8B5BC6B3BC4BJCKFChC+BC9BiCC9B6BC5B+BC5B2BC1B6BC3B0BCzB4BCnBk",
     "BCjBoBClBiBChBmBCHCCBECBCCCBCCCCGJCKFDNcGDhBeEDhBgBCCzBkBCjBmBChBgBCfiBCfeCdgBCtBsBCrBuBCrBq",
     "BCpBsBC5B4BC3B6BC7B6BC5B8BC3B2BC1B4BCpBoBCnBqBCnBmBClBoBCrBPCQNCOLCMiBChBFCEDCIHCKJCMkBCjBmB",
     "ChBgBCfiBCfeCdgBCtBsBCrBuBCrBqBCpBsBC5B4BC3B6BC7B6BC5B8BC3B2BC1B4BCpBoBCnBqBCnBmBClBoBCrBPCQ",
     "NCOLCMiBChBFCEDCIHCKJCGPCQNCOLCMiBCjBoBClBmBCfcCjBNCOLCMJCMPCQNCOLCScCZaC7BoCCnCoCsDkMDhCEyB",
     "D1BGBDDGBDDGwBD1BIuBD1B2BxBDD2BvBDF2BtBDDyBvBDByBvBDAwBKD5BwBIDrBLBDONCDMN6BDrBkBvBDMkBvBDMk",
     "BxBDOkBADjBkBADfPADQPADQgBADhBNwBDhBNwBDhBP8BDrBiBtBDMiBtBDMiBADhBiBADdR4BDlBPuBDdPuBDbcvBDU",
     "cvBDUcADbcKDhBZyBDXYADXYADXYIDdWADVWKDfWIDPlBuBDHlBuBDFGvBDqBGADBtBwBDBtB6BDLtB4BDJvBADwBvBA",
     "DwBrBuBDBrBuBDBCvBDuBCvBDwBvBBDyBvBwBDAvB6BDJxBCDwBxByBDAtBDDyBtBuBMoKDAxBEDyBDxBD2BDADCxBwB",
     "DCxB4BDFzByBDCzByBDCzB6BDFBKDHBIDCJADKJAD5BM4BD/BE8BD/BE6BD9BI4BD/BI2BD9B2BKD/B2BID5ByBKD7BC",
     "4BD5ByBIDrBJ2BDnBP6BDrBN6BDnBR6BDLvB8BDLCKDA5B6BDA7B8BDAJKDJAKDPGKDHxB6BDPGvBDuBtBwBDXYKDNEK",
     "DHzBCDwBtB4BDLvByBDDEADBvByBDCzBCDBC6BD5BB8BDJxB8BDRIKDjCK6BDNEADXZyBDfgBADjBJ4BDHzB8BwBhGyC",
     "DpBe8ID/IE8IE1K6BAGE/B4B1BSEoBvBwBrBEMeVYEnBEqBHEVWMFECpBiBCDfeKSnBeKxiDugD6BAGtiDyhDWMFtiDw",
     "iDpBiBCIxBwBniD4gDwB5B6BGErB2JpK6BSiDQBvhDBq9XHPx9+DcB/9XB8BBu9XBCrBgDHkDBlgIBBBn7PBABtDBCBk",
     "FBEBu5XBCBJBCBNBCBFBCbpjnDMmCB76XBEC5DquBCpuBquBCpuBquBCpuBquBBrqBBABABlDBq9XN2DBr8XBBBKB7BB",
     "m/PB3+PBCBkFBEBu5XBCBj/XBGBIBCBEBeBEBBHcB+BBvDBCB2BZWC/B2iDCVWC1iD4iDGKC3iD6iDHuZC5iD8iDCbcC",
     "7iD+iDCdeC9iDgjDCfgBC/iDijDChBiBChjDkjDCjBkBBhDBCBABCBABCBABCBABCBABABABCBABCBABABABCBABCBAB",
     "ABABCBABABABCBABABABCBABABABCBABABABCBABCBABCBABCBABCBABABABCBABABABCBABABABCBABABABCBABABAB",
     "CBABABABCBABABABCBABABABOBABABABCBABABABCBABABABCBABABABCBABABABCBABABABCBABABABCBABCBABCBAB",
     "ABACLjCCkCjCCkChCCiChCCiC9BC+B9BC+B5BC6B5BNIHjG/t/D/E/r/D7G/t/DPz9qD8GBx/CB89XBCBXB0PBRBhFBE",
     "BEBEBEB0DBEBEBnCByDBzFBEBEBEBEBCBEBEBEBEBEBEBEBEBEBEBEBGBEBEnB1rnDcBUBGBGBGhBhrnDQBSBEnB7qnD",
     "cBSBIBzFBCIPhq3DcB/uPBvKB0KBCVnq3DnBz/2DKBlJV1q3DKBO/B3q3DTnBhm3DNnBlm3DNnBpm3DNVtm3DTP7z/Di",
     "BBpnIC3IouBB7lBBBBogQHKBylCbxlvDQB8JB2CnDoCH8EHyDHMH6CN0CtGiXfSZuITwQHuCTG7I0ItYuFTmJ7CoFZ4G",
     "3B0FfiIf0FH+GZ0C9HzHwCkWN8BlB7GwCZ4GZwHxB4JjCGlCuCH9CuCHtBuCHPuCHiCH6CHqBHMT4JpCq6B3BkE9BwBx",
     "EGPhriEWBpuSBmbBrEHgIBgFBms0CBhs0CBBB7EBCB0zNBxzNBMB2EBpEBDBDB2DBnXBqXBpDB6BBsCBCB9DBwpuHBr3",
     "7EB/xyCBupuHBtnuHBwnuHB7gvHB8XBCBrgBBygBB8ouHB1ouHBCBEBwCBDBis0CB/r0CB9BBy+UHcBj+UBkBBCBTVr/",
     "iEQBknuHBoB/MkBNGHoIHMTGNqEHwNxB2BhJyDHMfmGTiFfiFlHwKZ4DNsJHMfwBHSHuFNSZ8BrB2BrBgMhGqHZoC3Bk",
     "KTuFNiFf8ErBYpCqBhP2NrK1JgEvCyJrB0IxB8BlBgDnEgCTuFxBMhnB6FH8HHSNMhDkBxB2BnG0IxB8HlE8ElHoF5Dq",
     "E3B0OZ4G3B0LHevC2ErB8BlB+JHsDxBqH3BgSH4DjCsDH6I1LqBHGHYH6CHiClBiLf8BlBYHwBNMNkEHqBHMHeH8BNMN",
     "SNGlBGfqBNqBTejC8BHGNGHkHH8BHGNGHYH8BHMxBMvFoRHe1FwNxB8BlfkKNkHtG+MjC8BlBuCzD8KlB8BlB4DpFiFN",
     "6CZqE3iBoL5SjGgCyJpCwBNGNwBHMH0FHMNoC3B8BlNwBN0INiCjFwNxByPvC2NrB8BlQwBxQsG1C8BlB2BHuIH0C9Bu",
     "FTgGNkEH0C3NqBHMHoITGHMH2BxB8BlBkBHMH+GHMHkBrB8BlBoIZ8BluB2ErBmDH2HTuF/PG7CsJvCitFlT6UHejC4k",
     "BpuPySvCgpGhDkE9BitXfqtD3ioB8KllK2qDrB6FH8BZmPH8BlB0FNkB9BkN9B8BHqBH+DfyDhxC8KllBjGgCiLf5E2B",
     "N2EpIiOZ2KrBmDhMejCqB3BkorB3HgGnSyVv/yBYHqBHMHy2B7CGvFSNG1CYxBoqC5wNiUfuCT2BrB8BNYaphXkoB/Ep",
     "nmH/B/rmHST4xClBqE7CmD7C0INqE3B4VpLkuB9BqHN+JuBCt8GcCZaDZaSDrBaUDtBaWDvBaYDxBaa0CyBgMoBCuEnF",
     "CqFpFDoFnFSD4EpFSD2EnFUD2EpFU8H/DkN9W4DpC4DpCqQ3B2ErZ/E95pH/Ex7pH/El9pHtB5+pHHvD5+pH/EtgqH/E",
     "hiqHKB7woHHP1jqHNKBMNP1jqHNb1jqHHzB1jqHbplqHHKBBHtBplqHHlCplqH/E9mqH/ExoqHPlqqHHblqqHNzBlqqH",
     "HtBlqqHH/E5rqHPttqHHbttqHHhBttqHHKBSTtBttqHH/EhvqH/E1wqH/EpyqH/E9zqH/Ex1qH/El3qH/E54qH/Et6qH",
     "/Eh8qH/E19qH/Ep/qH/E9grH/ExirHQBkMBsQNpDtvpHKBiYtBtvpHKB+kPpDhxpHKBnkPtBhxpHuBB+jPB5kPBGBEBY",
     "BJBBpDhzpHKBPtBhzpHKB+kPpD10pHKBnkPtB10pHuBB+jPB5kPBGBEBYBJBBpD12pHKBPtB12pHKB+kPpDp4pHKBnkP",
     "tBp4pHuBB+jPB5kPBGBEBYBJBBpDp6pHKBPtBp6pHKB+kPpD97pHKBnkPtB97pHuBB+jPB5kPBGBEBYBJBBpD99pHKBP",
     "tB99pHKB+kPpDx/pHKBnkPtBx/pH6BB+jPB5kPBGBEBYBJBBB6BBAN/B75rH/Bv6rH/Bj7rH/B37rH/Br8rHo6D7CeH6",
     "ChvG6FlBkB/nBqBHmDNqBHMHef5B//tHV9/tHlC7/tHgCB8GBEBCB2jxCB/6wCBlIBEBiJBzDBgC5BhiuHP/huHP7huH",
     "KB7InB3huHP1huHuBBgFB1DBBBUB4EBs6wCB/5wCnGGhVuIT0CN8BZMh8B6FnD8KfGh3C8HloBiIZGhkB6FHkExBMhqB",
     "qBHYHMH6CH+kBNgD3HvGkC8HZ8BZMnzE4MpOuLtkBPx9zHQB2XBGHiBByBBrBBJBUBmBbt8zHwDBtBBMBQBXBaBhBBGB",
     "TBCBGBEBMBEBEBoDB4EBxBBjDHQBtEBIHKB2BNKBzBHKB6Bbt+zHiBBtBBMBQBXBaHcBbBTBCBGHKBQHKBIlBKBbZKBC",
     "HKB6BHKBLHWBEBlBBMHQBHBaHKBbNKBLHKBQHKBIHKBgIHKB1EHQBtEBIHKB2BNcBzBBUBmBBNHPti0HiBBfBMBQBXBa",
     "HcBbBTBCBGHcBQBEBEBoDHKBmDHPxl0H0BBpHBGBwBBCBrBBJBUBmBHVtk0H4CBtBBMBQBXBaBhBBGBTBCBGBEBMBEBE",
     "fWBjBBIBGHiBByBBrBBJBUBmBHVtm0H4CBtBBMBQBXBaBhBBGBTBCBGBEBMBEBE5JM1yBoIZ4SpC6CN6CH6CH+GjCgCC",
     "zgDHCKJCMLCONCQPCSRCUTCWVCYXCaZe+FDHyDvDDB0DxDDB2DzDDB4D1DDB6D3DDB8D5DDB+D7DDBgE9DDBiE/DDBkE",
     "hEDBmEjEDBoElEDBqEnEDBsEpEDBuErEDBwEtEDByEvEDB0ExEDB2EzEDB4E1EDB6E3EDB8E5EDB+E7EDBgF9EDBiF/E",
     "DBkFhFD2+Xh6Xk6XBj7XBeCdCCmBGG/E9s4HoBCjBcCRSCFdCeADFAMCCnB8EWCUTCURCSKyGKCbMuFxK8EWCihY/CCw",
     "GABEvCsIBs5YBnvDB14DBpwRBq8OB8oFBysYBzrYBpoFB43LBiwFBv4FB30JB+zGB9/GBmiKBl5JBqyVBliEB04LBx7Z",
     "BtrCB2tNB9nGBgMBp1KBSBikhBBnmZBx7HBs8CBoxHBymVB5xVB8yLByPBjnTBwnNBt3DBBB2iHBhsRBo0BBu5dZ6BDx",
     "zwBwxbtxbDBq/On/ODBwnPtnPDBq3Vn3VDBqqgBnqgBDB+jZ7jZDBmsjBjsjBDBysRvsRDBm0aj0arBQBk4XBv6F1CkB",
     "9c24FTmDTuCT8oBlBoCZG7CoCZwKxB8BlBwHxB0FNoCZM1C2BrHwgCxB0CNuCTiCT2KHGZgDNoCZ8BrBybHoR/B/79HG",
     "/gGgq6HhG01ZN06hBNm5rB7C00DtuO4lDBj7CBJBSBiu5GBj84GB8EBaBuEBwHB+BB8EBvBBhjOB45oHB5u6GBOBgBBm",
     "BBq65GBlmoHB8qOBsCB875GBn75GBaBvtBBguBBSB0igJBz+/IBcBnyOB41OBWB4CBKBj2OBk7OBEB2BBsBBWBCBiBBk",
     "DBQBSByBBUBEBABAB6q7GB37sGBrqOBqBBo47GBv37GBMBqBBwJBrGBgBBgCB0DBoFB0BBmEBgBBiCBABqBBkBBQBeBo",
     "VB/QBiRBrMBmCB5mCBuuDB/RBsCByBBjIBuKBBB2HBwj+GBj/9GBKBeBoBBQBgEBs0+GBkEB7v+GB+CBYB9EB8IBv3RB",
     "cB4gSBsDBAB0o/GBpg/GBqBBeBYBqy/GBxx/GBOB60BBhzBBhqSB+tSBcBkFBlDBu1gHBhqgHBmqgHBvngHBFBiBBqGB",
     "CBl7SB88SB2CBqBB4CBtgTBiy0HBtw0HBojTBGBGBoBBwsiJBnpiJBmjiHBAB/ywGB9tRBAB1lTBi/8HBkyXBvnhIBSB",
     "voTBurTBmDBUBkCBwIBt0TB7BBw3TBgkjHB5gjHBiIBIBEBDB8CBoBBoCBbBWB+CBoBBIB0BBWBkEBoFBmCB4HB47jHB",
     "98jHBhEB4GB2BBiGB6gkHB98jHB5FB3BB13UB2jVBqBB+BBrCB1gVBmuVB6BB8plHBtilHBqRB9KB/yVBw3VBx4VBnCB",
     "8qLBGB22KBnGBihNBnteB8zRBIBMB6DBVBgnmHBzn8HBirWBpHB6MBmDBw+lHB99lHB9GBqPBt3WBq6WBiGBuEB8LB2/",
     "lHBv8lHBlsXBywXBs4mHBl1mHBrwXBoyXB6CB2BBCBktnHBj4OB++OB3qnHB8moHB5/nHBcBrGB+KBwCByDBrDBwCBeB",
     "aBy5nHBz+nHB2PB+DB1zYBw5YBHB0goHBvtoHBqXBg/nHBgDBv8nHBmHB1BBFBpoZBorZBmDBLBsDBwnqGB/9pGB8xoH",
     "BtsoHB+gpHBl4oHBaB2BBw7pHBv4pHBqBBgqqHB+NBzpqHBiBB9taByvaB5uaBAB+4aBqBBqBBoBBqEB96aBygbBkxrH",
     "BvvrHBo1rHBjyrHB+i2GB941GBi5sHBuBB4IBvkoIBYB4ubB+/sHBBBuCB0BBphtHBCBAB2CBhxbBk1bBp0bBgFBu4pI",
     "B98tHB8DBgEBx+bBm0qIB/suHBo0uHB2CBrzuHB4FB3rcBixcBUBKB6yvHB2SBABx7vHB3ucBy6sIBp+vHBGBj6cBylt",
     "IB76vHBjjdBwkdBJB6BBsoxHBlixHBjmdBssdB2DBmEBhxdBovvIB+BB7uvIBg4vIB91xHBo8xHBx6xHBqGBWBqtyHBy",
     "EBlsyHBw0yHBvzyHB+u5GBz43HB6teBiFBvveBmzeBxoTBkvmIBcBjiaBSB154GBGB05GBlzlBBsifBLBkBBz+XB8/XB",
     "EBUByCBsl0HBtl0HBwDBsEB0EBzIB0JB0CBgHBnQBuHBEBgBB0l0HBqTBrJBz6zIBs8fBEBmCBor3HBrm3HBw80HB980",
     "IBIBgl1IBiSBt21IBqugBBYBWBEBgEBhCBsIB3CBuJBhFBmEB2BB96gBB0ghBBgCBvghBBumhBBGBog3HB/42HBOBxqh",
     "BBqshBB9jqBBm/hJBwLBvq5IBSBy9hBB6EB6JB2MBml4HB5/3HBsBB0FB4FBw74HB1y7BBxj9FBdBoDB8u9FBzg9FBoG",
     "B0p7HB2BBx16HB6FBgCB6h7HBlh7HB6RB+JBCB3FB6XB4BBq+7HB9m7HBr/lBBkimBBg87HBh5hJB6tmBBhxcBi3cBki",
     "9HBqNB36jJBQB02mBB0i+HBv1kJBo+kJB1o+HBAB8BB64+HBnt+HB96mBBs/mBB8HB2BB4DB/inBBk2nJB7hgIB8SB6L",
     "B9ioBB+BB0noBBu2hIBr9pJB6gqJByQBmIBr9hIBp2oBBm6oBBKBOBUBOBqCBqsjIt6Ii+cf83xBl5yhEitBhj9jB"]

inductive Treatment
  | kept
  | refused
  | dropped
  /-- Each stands for the one at a distance. -/
  | shifted (distance : Int)
  /-- Each has characters of its own. -/
  | replaced (targets : List (List Nat))
  /-- Every other one, from the first on, stands for its neighbour. -/
  | paired
  deriving DecidableEq, Repr

structure Entry where
  first : Nat
  count : Nat
  treatment : Treatment
  deriving DecidableEq, Repr

/-- Reads characters as differences, each to the one read before. -/
def takeTarget : Nat → Nat → List Nat → List Nat × Nat × List Nat
  | 0, before, rest => ([], before, rest)
  | count + 1, before, d :: rest =>
    let c := ((before : Int) + Text.Packed.signed d).toNat
    let (cs, before, rest) := takeTarget count c rest
    (c :: cs, before, rest)
  | _ + 1, before, [] => ([], before, [])

def takeTargets : Nat → Nat → List Nat → List (List Nat) × Nat × List Nat
  | 0, before, rest => ([], before, rest)
  | count + 1, before, length :: rest =>
    let (cs, before, rest) := takeTarget length before rest
    let (targets, before, rest) := takeTargets count before rest
    (cs :: targets, before, rest)
  | _ + 1, before, [] => ([], before, [])

/-- Reads runs one after the other. A run takes at least one number. -/
def entriesFrom : Nat → Nat → Nat → List Nat → List Entry
  | 0, _, _, _ => []
  | _, _, _, [] => []
  | tries + 1, next, before, head :: rest =>
    let count := head / 6
    let entry (t : Treatment) : Entry := ⟨next, count, t⟩
    match head % 6 with
    | 0 => entry .kept :: entriesFrom tries (next + count) before rest
    | 1 => entry .refused :: entriesFrom tries (next + count) before rest
    | 2 => entry .dropped :: entriesFrom tries (next + count) before rest
    | 3 =>
      match rest with
      | d :: rest =>
        entry (.shifted (Text.Packed.signed d)) :: entriesFrom tries (next + count) before rest
      | [] => []
    | 4 =>
      let (targets, before, rest) := takeTargets count before rest
      entry (.replaced targets) :: entriesFrom tries (next + count) before rest
    | _ => entry .paired :: entriesFrom tries (next + count) before rest

def entries : List Entry :=
  let ns := Text.Packed.numbers mappingLines
  entriesFrom ns.length 0 0 ns

def entryOf? (c : Nat) : Option Entry :=
  entries.find? fun e => e.first ≤ c && c < e.first + e.count

/-- What a character of a run stands for; nothing for one that no name contains. -/
def Entry.target? (e : Entry) (c : Nat) : Option (List Nat) :=
  match e.treatment with
  | .kept => some [c]
  | .refused => none
  | .dropped => some []
  | .shifted d => some [((c : Int) + d).toNat]
  | .replaced targets => targets[c - e.first]?
  | .paired => some [if (c - e.first) % 2 = 0 then c + 1 else c]

def mapped? (c : Nat) : Option (List Nat) := (entryOf? c).bind (·.target? c)

def isKept (c : Nat) : Bool := mapped? c == some [c]

end PluginFlow.Net.Idna
