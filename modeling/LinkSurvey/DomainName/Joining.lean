import LinkSurvey.Text.Canonical

/-!
Joiners and marks. The two zero-width joiners are allowed only where they change how the characters
around them are written, and a label does not start with a combining mark.
-/

namespace LinkSurvey.DomainName

open Text

/-- Characters that join on both sides. -/
def dualTable : Array (Nat × Nat) := Packed.intervals [
    "gxBAFABABEEMBGBBjBBIPSlBBBJABABBoBCCASCFDBIBABABBfKDOCDBACCCFqCgB2CECABJBAKABDCAdACEBAQJFBCFBO+5",
    "DAY4COhBBA18jBxBuyYEODBEBCKDxEABADCBBBACAcByKgBBA/MBBBoDCBQMCcDCLuBABBEACBBBBACAFA1p2BjC"]

def leftTable : Array (Nat × Nat) := Packed.intervals [
    "yjqBA6yYAJAoRAqWA"]

def rightTable : Array (Nat × Nat) := Packed.intervals [
    "ixBDBABAFDVAoBCBCQRmBACIBABACBBAYBgBAEEEAJABABACAdALCPBEABBDBmGAFBBAKABCOABBFSLAbCBACBGArwgCABAB",
    "BDEKADACAKAxEABCDACABBBAXD1LA/MAwDAgBAfB+BCCBCAEBFA"]

/-- Characters that joining sees through. -/
def transparentTable : Array (Nat × Nat) := Packed.intervals [
    "tFAySvDzIGnIsBBABBBBBAoCKBAuBUQAlDGCFCBBDhBABAea7CK6BIJAYDBIBCBErBC7BIqBXBf3BABAEHEADGKBdA6BAEDI",
    "AUBaACB5BAEBEBCCDAeBDALB5BAEEBBEAUBWFBA6BACABDIAHBLBeA9BAMAyBADA3BABCFCBDHBLBdA6BACAGAFBUBcB5BBE",
    "DIAUBdAoCAHCBA6CACGMHiDACILGpCBbABABA3BNBEBBFKBjBJAmDDBFBBCBZBECQDNACBGAPA/VCydCdBeBeBgCBBGIACKJ",
    "AtBCBA1DBiBA2DCEBJAGC7GBCA6BABGBABACHGJCAwBtBCLUDwBABEBAFAoBIMBgBDCBBC4BABBDABC6BHCB4ECBMBGEAGAD",
    "BmG/BrQACBaExBEFFgDgB+/CCtEAgDfqRDrDB0udDBJgBBwCBwIADAEAZBFA3EBaRNAmBHZKuBCwBACDCBnBAjCFCBCBMAIA",
    "vBAzBABCCBFBBAqBBIAuHACAEAw5TAhXPQPvGA5HChQAiHA1EEm0BCBBFDoBCEAlFB9RDhCE9JBtCFmCKxBD7DA2BOpBACBK",
    "CxBDCBHA9BCkBEBH+BAMB0BIKDCA/CCCABBGACA9EADHVB5BBDAlBGDEmCFNABABAOB1CHCCBAXA0CFBAEBBBuHDGBBBbB1C",
    "HCABBqDABACFBAlDABACDBEjIIBBgIBBAEAwEDCBEAgBJoBFCDIAJFCCuBMBBmGABCBApGGBFBAyCVCGBBBB6DFDABBBGBAo",
    "CBDABA7KBLB0BEFABAXA1mFQGOomLLDCguCE7BG4gBA/BDxCA4lTBBD8yEtBCWgRCJPCGeD0EC79B2BExBIAOAWEBOwqBGBQ",
    "CGBBBEkDAgFG3LA9BD8PD+HBzHACAHBFA6OGtDH11lYAe/CgEvH"]

/-- Combining marks of every kind. -/
def markTable : Array (Nat × Nat) := Packed.intervals [
    "gYvDzIGnIsBBABBBBBAoCKwBUQAlDGCFCBBDjBAea7CK6BIJAYDBIBCBErBC7BIqBXBgB2BCBRBGKBdC4BABGCBCCJAKBaAC",
    "C4BABEEBCCDAeBDALC4BABHBCBCUBWFBC4BABGCBCCHCKBeA7BEDCBDJAoBE3BABGBCBDHBLBdC4BABGBCBDHBLBPAMD3BBB",
    "GBCBDJAKBdCmCAEFBABHSB9BACGMHiDACILGpCBbABABAEBxBTBBFKBjBJAkDTXDECBCCGDDNLBAKD/VCydDcCdBeBgCfJAt",
    "BCBA1DBiBA2DLEL7GE5BJBcCAwBtBCLUEvBQmBIMCeM4BNwBT4ECBUEAGACCmG/BwWgB+/CCtEAgDfqRFpDB0udDBJgBBwCB",
    "wIADAEAXEEAzCByBRaRNAmBHZMsBDvBNkBAjCNMAIBtBCyBABCCBFBBApBEFBsHHBBw5TAhXPQPteAiHA1EEm0BCBBFDoBCE",
    "AlFB9RDhCE9JBtCFmCKxBD6DC1BOpBACBKDtBKHA9BCkBNQBsBAMCwBNIDBB8CLGACA9ELVD3BBBGCBCCJAKBCGDEjCIBACA",
    "BDBEBAOByCRXAxCTrHGCIbByCQqDMlDOgIO1HFBBCDBABBtEGCGDAcJoBGBDIAJKuBPmGHnGHBHyCVBN6DFDABBBGBAiCEBB",
    "BE7KDJBBAwBGDEXAlnFAGOomLRguCE7BG4gBAB2BHDxCALBrlTBhzEtBCW+QEDFIHCGeD0EC79B2BExBIAOAWEBOwqBGBQCG",
    "BBBEkDAgFG3LA9BD8PD+HBzHACAHBFA6OGtDG19lYvH"]

/-- No mark comes before the block of combining diacritics. -/
def isMark (c : Char) : Bool :=
  0x300 ≤ c.toNat && Packed.holds markTable c

def isVirama (c : Char) : Bool :=
  Canonical.combiningClass c == 9

/-- Whether, reading on from a joiner, the first character that is not transparent joins on the side
that faces it. -/
def joins (table : Array (Nat × Nat)) (cs : List Char) : Bool :=
  match cs.dropWhile (Packed.holds transparentTable) with
  | [] => false
  | c :: _ => Packed.holds table c || Packed.holds dualTable c

/-- Every joiner of a label stands after a virama, or, if it is a non-joiner, between two characters
that would join over it. `before` is what has been read, last character first. -/
def joinersFit (before : List Char) : List Char → Bool
  | [] => true
  | c :: cs =>
    (match c.toNat with
      | 0x200C => before.head?.any isVirama || (joins leftTable before && joins rightTable cs)
      | 0x200D => before.head?.any isVirama
      | _ => true)
    && joinersFit (c :: before) cs

end LinkSurvey.DomainName
