import LinkSurvey.Text.Packed

/-!
Right-to-left labels. A name with a right-to-left character in it may only have labels of one
direction each, by the rule of six conditions for such names.
-/

namespace LinkSurvey.DomainName

open Text

/-- Bidirectional classes, as far as the rule tells them apart. -/
inductive Direction where
  | left
  | right
  | arabicLetter
  | arabicNumber
  | europeanNumber
  | europeanSeparator
  | commonSeparator
  | europeanTerminator
  | neutral
  | boundaryNeutral
  | nonspacing
  | other
  deriving DecidableEq, Repr

def Direction.ofCode : Nat → Direction
  | 0 => .left
  | 1 => .right
  | 2 => .arabicLetter
  | 3 => .arabicNumber
  | 4 => .europeanNumber
  | 5 => .europeanSeparator
  | 6 => .commonSeparator
  | 7 => .europeanTerminator
  | 8 => .neutral
  | 9 => .boundaryNeutral
  | 10 => .nonspacing
  | _ => .other

/-- Where each run of one class starts. -/
def directionRuns (start : Nat) : List Nat → List (Nat × Direction)
  | gap :: code :: rest => (start + gap, .ofCode code) :: directionRuns (start + gap) rest
  | _ => []

def directionTable : Array (Nat × Direction) := (directionRuns 0 (Packed.numbers [
    "AJJLFJOLFICHDIFFBGBFBGCEKGBIGAaIGAaIEJGLBJaGBIBHEIEABICJBICHCECIBABIDEBABIFAXIBAfIBAhOICAHIOACIO",
    "AFIJABIRKwDAEICAIIBAFICABIBAuDIBAsEKHAgIIBACICHBBBKtBBBKBBBKCBBKCBBKBB4BDGICCBHCCBGBCBICKLCwBKVD",
    "KHBDCCDKBClDKHDBIBKGCCKCIBKECCEKCXKBCeKbC7CKLCPBrBKJBCIEBDKBBYKEBBKJBBKDBBKFBrBKDBECwBDCCFKJCqBK",
    "YDBKgBA3BKBABKBAEKIAEKBADKHAKKCAdKBA6BKBAEKEAIKBAUKCAOHCAHHBACKBACKCA5BKBAEKCAEKCACKDADKBAeKCADK",
    "BALKCA5BKBAEKFABKCAEKBAUKCANHBAIKGABKBA6BKBACKBABKEAIKBAHKCALKCAeKBA9BKBAMKBAlBIGHBIBAFKBADKBA3B",
    "KBABKDAFKDABKEAHKCALKCAUIHACKBA6BKBAPKCAUKCAcKCA5BKCAEKEAIKBAUKCAdKBAoCKBAHKDABKBA6CKBACKHAEHBAH",
    "KIAiDKBACKJALKHApCKCAbKBABKBABKBIEAzBKOABKFABKCAFKLABKkBAJKBAmDKEABKGABKCACKCAZKCAEKDAQKEANKBACK",
    "CAGKBAPKBA/VKDAwBIKAmDIBA/TLBAaICA1DKDAdKCAeKCAeKCAgCKCABKHAIKBACKLAHHBABKBASIKAGILKDJBKBA1DKCAi",
    "BKBA2DKDAEKCAJKBAGKDAEIBADICA4EIiBAXKCACKBA6BKBABKHABKBABKBACKIAGKKACKBAwBKuBACKMAUKEAwBKBABKFAB",
    "KBAFKBAoBKJAMKCAgBKEACKCABKDA4BKBABKCADKBABKDA6BKIACKCA4EKDABKNABKHAEKBAGKBADKCAmGKgCA9NIBABIDAL",
    "IDANIDANIDANICABLLJDABBBIYLHGBHFIPGBIaLBJGLEJGEBADEGFCIDABEKFCIDARHwBKhBAPICABIEABICAKIBABIDAFIG",
    "ABIBABIBABIBAEHBALICAEIFAFIEACIQApBIDAEIiEFBHBIiJAlCIaABIxEAZILAVIoBEUAuCIiOABIzKAgII0TACIgBABIp",
    "DAlHIGAEKDAHIHA/DKBAgDKgBI+CAiBIaABI5CAMI2GAaIMAELBIEADIZAJKEACIBAFICAFIDA5CKCICADIBA6CIBAkGIkBA",
    "5BICAxBIQAcIDAyBIPAMIEAnFIEAjDICAfIBAguGIgCAw0VI3BAmKIDA/CKEIBKKICAeKCAwCKCAOIiBAmDIBA5DKBADKBAE",
    "KBAZKCABIEKBALHCA6BIEAsCKCAaKSANKBAmBKIAZKLAuBKDAwBKBACKEACKCAnBKBAjCKGACKCACKCAMKBAIKBAvBKBAzBK",
    "BABKDACKCAFKCABKBAqBKCAIKBAzDICA5DKBACKBAEKBAv5TBBKBBKFBBmBCuPISC/DIBJgBCNIDKQIKAGKQIgBGBIBGBABI",
    "BGBIJHBICFCIDABIBHCIBAECvEJBABICHDIFFBGBFBGCEKGBIGAaIGAaILA6DHCIDHCABIHABJJIFJCAhIIBA+BItCADINAD",
    "IBA8CKBAiHKBEbA6DKFAlkBB/IIBBhHKDBBKCBFKEBoBKDBEKBBlFKCByCIHBgOCkBKECIDKCGBpBKFByHDfBsBKCBTC6BKG",
    "BwBCWKLCfBSKEB6DABKBA2BKPALIUAKKBACKCAKKDAxBKEACKCAHKBA9BKDAkBKFABKIA+BKBAMKCA0BKJAKKEACKBA/CKDA",
    "CKBABKCAGKBACKBA9EKBADKIAVKCA5BKCADKBAlBKHADKFAmCKGANKBABKBABKBAOKCA1CKIACKDABKBAXKBA0CKGABKBAEK",
    "CABKCAuHKEAGKCABKCAbKCA1CKIACKBABKCAfINA+BKBABKBACKGABKBAlDKDACKEABKFAjIKJABKCAgIKCABKBAEKBAwEKE",
    "ACKCAEKBAgBKGACKCAoBKGACKEAIKBAJKGACKDAuBKNABKCAmGKBABKDABKBApGKHABKGA0CKWACKHABKCABKCA6DKGADKBA",
    "BKCABKHABKBAoCKCADKBABKBA7KKCALKCA0BKFAFKBABKBAXKBA6DIIHEIRAuiFKBAGKPAomLKMADKDAguCKFA7BKHA4gBKB",
    "A/BKEAvCIBABKBA4lTKCABJEA8yEKuBACKXAgRKDAJJIKIACKHAeKEA7BICAVIiCKDIBA6FI3CAkcIBA5BIBA5BIBA5BIBA5",
    "BIBAKEyBAgQK3BAEKyBAIKBAOKBAWKFABKPAwqBKHABKRACKHABKCABKFAkDKBAgFKHA3LKBA9BKEAPHBAsPKEA+HKCAzHKB",
    "ACKBAHKCAFKBAqIBwGKHBtDKHBlZCwCBgCCwCBwFCwHICCOBgIIsBAEIkDAMIPACIPABIPABIlBAKELIFAfIBA6BIGA9BIBA",
    "yFIGA6EI4eAEIRADINADI3DAEI/CAGIMAEIBAPIMAEI4BAIIKAGIoBAIIeACICAuCI0KAMIOACINADIJAHIuBABIHAIIOAEI",
    "JAHIJAHIzEABI3BAlBEKAkgBJCA+//BJCA+//BJCA+//BJCA+//BJCA+//BJCA+//BJCA+//BJCA+//BJCA+//BJCA+//BJC",
    "A+//BJCA+//BJiIKwHJwwDA+/7BJCA+//BJCA+//BJ"])).toArray

/-- The class of the last run that starts at or before the character. -/
def direction (c : Char) : Direction :=
  directionTable.foldl (fun d (first, next) => if first ≤ c.toNat then next else d) .left

/-- Whether the character makes its name right-to-left. -/
def Direction.isRight (d : Direction) : Bool :=
  d == .right || d == .arabicLetter || d == .arabicNumber

/-- The rule for one label, given the classes of its characters. -/
def oneDirection (label : List Char) : Bool :=
  let ds := label.map direction
  let ending := (ds.reverse.dropWhile (· == .nonspacing)).head?
  match ds with
  | [] => true
  | first :: _ =>
    if first == .right || first == .arabicLetter then
      ds.all (fun d => d.isRight || d matches .europeanNumber | .europeanSeparator | .commonSeparator
        | .europeanTerminator | .neutral | .boundaryNeutral | .nonspacing)
      && ending.any (fun d => d.isRight || d == .europeanNumber)
      && !(ds.contains .europeanNumber && ds.contains .arabicNumber)
    else if first == .left then
      ds.all (fun d => d matches .left | .europeanNumber | .europeanSeparator | .commonSeparator
        | .europeanTerminator | .neutral | .boundaryNeutral | .nonspacing)
      && ending.any (fun d => d == .left || d == .europeanNumber)
    else false

end LinkSurvey.DomainName
