import LinkSurvey.Text.Packed

/-!
The characters that names are made of, by the properties ID_Start and ID_Continue, and the blanks and
line ends between tokens.
-/

namespace LinkSurvey.Script

open Text

/-- Characters beyond ASCII with the property ID_Start. -/
def startTable : Array (Nat × Nat) := Packed.intervals [
    "qFAKAEAFWBeBpOELOEHABAhEEBBCDBAGABCBABTByCBqEIlFBlBCAGoBnCaEDtBqBjBBBiDBAPBHBKCCAQABdd4CLAYgBJBE",
    "AFVEAJADAXYHKFXBGQpB6B1BDASAHJPPEHCBCVBGBADDDAQANBBCOBKAIFEBCVBGBBBBBBfDBATCQIBCBVBGBBBEDASAPBXA",
    "LHCBCVBGBBBEDAeBBCPARABFDCBDDBBABBDBDCDLWA0BHBCBWBPDAaCBBCBeAEHBCBWBJBEDAeCBBPBRIBCBoBCAQAFCICYF",
    "FRDXBIBACG6BvBBBMG6BBBABEBXBABJBBJACEBAVDgBA/BHBjBbEzDqBUAQFEDDADBHCEMMARlBBAFACqBBsKBDCGBABDCoB",
    "BDCgBBDCGBABDCOB4BBDCiClBPQ1CCFDrTCQBZFqCDKHRNSOROMBCPzBjBAEAjC4CHoBBAFlCKexBdCELrBEZ2BWJ0ByCA9C",
    "uBRH2BdNBKrBajBpBCKjBCKFqBCCpBDBFBBDAF/FgC1ICFClBCFCHBABABABeC0BBGBADCBGDDCFEMFCBG0DANAQMlDAEACJ",
    "BACFGABABABPCDFEEARoB3zCkHGDDBMlBBAFAC3BHAQWJGBGBGBGBGBGBGBGmRCZIHECEE1CEEB5CBDFqBB9CRfwBPgQ/tGg",
    "Cs0VjCtBCsIDPKBUuBQeCvCnBICmDCxCUQBCBDBWdzBOxB+BFDABBLbKWZcHuBcAQEBJKEBoBXCBHUWDADxBBADBCECABAYC",
    "CKHCMFCFCFJGBGBqBBNGyDdj9KMWEwBkoItLCpDmBGMEFABJBMBEBABBBBBrDhBqLS/BC1BoBL0DEBmEkBZGZL4CDFCFCFCC",
    "jBLBZBSBBBOCNiB6DlC0BrIcDwBvBfNdFlBKdCjBEHBEqB9ESjBEjBEnBIzBMKBOBGBBBKBOBGBBDzBM2JJVKHYFBpBBIlCF",
    "CABrBBBDACWKWJehCSBBKVKZGZmB3BGBgCAPDBCBcqBcDcjBHBbb1BKVKSNRuDoC3ByBNyBNjBmBbJW6HpBGBQF4BcKAIVqB",
    "RuBUbWM0B5BBCANsBgBYajBdACAIiBDAMvBODVABAjBRBYTB/BGBABDBOBJHuBmBHCBCVBGBBBEDASAMEeJBACABlBBAZABA",
    "sB0BSDUCevBUBBA4FuBpBDkBvBUA7BqBNAnCalBG5FrB0D/BfHCACHBBBXPABA+CHCmBQABAcAKnBHAVALtBTASoCnGgBfIB",
    "kBRAxBdwDGBBBlBVAZFBBBfOAXrBkISPABMBhB8DAvC5cmDuDRjGsyCgDPvhBRFZ68DFmS51Gdi3B4RHeRuCRdSvBQDfUFSw",
    "NsBzG/BgBYCYsBqCFAiCMgCBBAOEJ1mHpBfhDyD9vIDBGBBBiJPAdCCAODIrMkoCqDFMDIHJm7F0CBmCBBCACBCDBLBABGBg",
    "CBDCHBGBbBDBEBADGBzKCYBYBeBYBeBYBeBYBeBYBH05BeGFlI9ByEsBKGQAhKdSrBkPbkHdCAvGeBCBBBGCEJBgHGBDBBBO",
    "BkG7BjCHA0lBDBaBBBACABJBDBABAGAEABABABCBBBACABABABABABBBACDBGBDBDBABJBQFCBEBQkqE/2pBgB9oECt0FCwp",
    "HPtTitC9QivBq6EFppI"]

/-- Characters beyond ASCII with the property ID_Continue. -/
def continueTable : Array (Nat × Nat) := Packed.intervals [
    "qFAKABACAFWBeBpOELOEHABAR0DBBCDBAGEBABTByCBqEBEClFBlBCAGoBIsBBABBBBBAIaEDdKFpCElDBHCJBSCAQ6BCkDO",
    "1BEACACtBSbEKFXBGHqCBgECJBSBHCBCVBGBADDCICBCDIAEBBECLKABACCBFEBCVBGBBBBBBCABEEBCCDAHDBAHPLCBIBCB",
    "VBGBBBECJBCBCCAPDCJJGBCBHCBCVBGBBBECICBCCHCEBBECJBAQBBFDCBDDBBABBDBDCDLEEDCBDCAGAOJQMBCBWBPCIBCB",
    "DHBBCBBCDCJQDBHBCBWBJBECIBCBDHBFCBDCJBCMMBCByBBCBEFDHECJKFBCBRDXBIBACGDAEFBABHGJCBN5BFOBJnBBBABE",
    "BXBABWCEBABGBJCDgBAXBGJLABABAEJBjBETBRBjBJA5BpCGtCClBBAFACqBBsKBDCGBABDCoBBDCgBBDCGBABDCOB4BBDCi",
    "CCCJIOPQ1CCFDrTCQBZFqCDKHVJVLTMMBCBBMzCDAEBCJhBCBKG4CHqBFlCKeBLELKnBCELrBEZGKlBbE+BBcCKGJNAINBeC",
    "LUsCDJRIMzDM3BIJDwBCKFqBCCQCBmBF1QCFClBCFCHBABABABeC0BBGBADCBGDDCFEMFCBGPBxBBTAcANAQMzBMEADLRAEA",
    "CJBACFGABABABPCDFEEARoB3zCkHGIMlBBAFAC3BHAPXJGBGBGBGBGBGBGBGBflQCZOBECEE1CCGB+CFqBB9CRfwBPgQ/tGg",
    "Cs0VjCtBCsIDbUvBEJByDlBICmDCxCU2BEATzBMlCKJGXDABwBCjBMcDgCOKGeB2BJNCJGWDoCYCCPCEKFCFCFJGBGBqBBNG",
    "6DBBCJGj9KMWEwBkoItLCpDmBGMEFLBMBEBABBBBBrDhBqLS/BC1BoBLEPQPDBYCgBEBmETJHZEABZK5CDFCFCFCCjBLBZBS",
    "BBBOCNiB6DlC0BoEAiEcDwBPAffNdFqBFdCjBEHBEqB9ECJGjBEjBEnBIzBMKBOBGBBBKBOBGBBDzBM2JJVKHYFBpBBIlCFC",
    "ABrBBBDACWKWJehCSBBKVKZGZmB3BGBgCDBBFHBCBcCCEAgBcDcjBHBdZ1BKVKSNRuDoC3ByBNyBNnBIJGlBDEBW6HpBBBDB",
    "QFyBiBKAIgBfVqBUbWJmCfPJ7BHANYHJG0BBJEDIjBCAJkCEDBMBAjBRBkBGD+BGBABDBOBJH6BFJGDBHCBCVBGBBBEBJCBC",
    "CCAGAFGCGDELJBACABlBBJBACABDBHNBdqCFJEDelCBAIJmF1BCIXFiBgCDALJmB4BHJGTcaCOEJGG5F6BlDpCVHCACHBBBd",
    "BBCIMJmCHCtBCHBBb+BIAIpCDASoCnDH4CgBPJGIBsBBIPJYdCVBNpCGBBBrBDABBBIIJGFBBBkBBBBFHJGrBEJ2HWJQBoBD",
    "ENK1CAvC5cmDuDRjGsyCgDPvhBQVK68DFmS51G5Bm2B4RHeBJGuCBJGdCEL2BJDMJJUFSwNsBDJmG/BgBYCYsBqCE4BHQgCB",
    "BBLGJ1mHpBfhDyD9vIDBGBBBiJPAdCCAODIrMkoCqDFMDIHJDBxiEJmQtBCW+QEDFIHCGeD0EC7N0CBmCBBCACBCDBLBABGB",
    "gCBDCHBGBbBDBEBADGBzKCYBYBeBYBeBYBeBYBeBYBHCxBgQ2BExBIAOAWEBOwiBeGF1GGBQCGBBBEF9BhBAwDsBDNCJEAhK",
    "eR5B2OpB2GqBlGeBVIBgHGBDBBBOBkGLGpBrCEJmlBDBaBBBACABJBDBABAGAEABABABCBBBACABABABABABBBACDBGBDBDB",
    "ABJBQFCBEBQ0pDJmgB/2pBgB9oECt0FCwpHPtTitC9QivBq6EFppImkzVvH"]

/-- Whether a name can start with a character. -/
def isNameStart (c : Char) : Bool :=
  if c.toNat < 128 then c.isAlpha || c == '_' || c == '$' else Packed.holds startTable c

/-- Whether a name can go on with a character. The two zero-width joiners count too. -/
def isNamePart (c : Char) : Bool :=
  if c.toNat < 128 then c.isAlphanum || c == '_' || c == '$'
  else c == '\u200c' || c == '\u200d' || Packed.holds continueTable c

def isLineEnd (c : Char) : Bool :=
  c == '\n' || c == '\r' || c == '\u2028' || c == '\u2029'

/-- Blanks within a line; U+200B is none. -/
def isSpace (c : Char) : Bool :=
  let n := c.toNat
  n == 32 || n == 9 || n == 11 || n == 12 || n == 0xA0 || n == 0x85 || n == 0x1680
    || (0x2000 ≤ n && n ≤ 0x200A) || n == 0x202F || n == 0x205F || n == 0x3000 || n == 0xFEFF

end LinkSurvey.Script
