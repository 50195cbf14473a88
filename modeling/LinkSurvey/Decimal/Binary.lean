/-!
Binary floating-point numbers taken apart, so that their decimal notation can be worked out in natural
numbers.
-/

namespace LinkSurvey.Decimal

/-- The number `significand * 2 ^ exponent`, or its negative. -/
structure Binary where
  negative : Bool
  significand : Nat
  exponent : Int
  /-- The next smaller number is only half as far away as the next greater one. -/
  narrowBelow : Bool
  deriving DecidableEq, Repr

/-- Whether a number can be taken apart: infinities and what is no number cannot. -/
def isFinite (x : Float) : Bool :=
  x.toBits.toNat / Nat.pow 2 52 % Nat.pow 2 11 != 2047

/-- A finite number; infinities are taken for the power of two after the greatest finite number. -/
def Binary.ofFloat (x : Float) : Binary :=
  let bits := x.toBits.toNat
  let fraction := bits % Nat.pow 2 52
  let scale := bits / Nat.pow 2 52 % Nat.pow 2 11
  { negative := bits / Nat.pow 2 63 == 1
    significand := if scale = 0 then fraction else Nat.pow 2 52 + fraction
    exponent := (max scale 1 : Nat) - 1075
    narrowBelow := fraction == 0 && 1 < scale }

/-- A quotient of natural numbers. -/
structure Ratio where
  num : Nat
  den : Nat

/-- `m * 2 ^ e` as a quotient. -/
def Ratio.ofBinary (m : Nat) (e : Int) : Ratio :=
  ⟨m * Nat.pow 2 e.toNat, Nat.pow 2 (-e).toNat⟩

/-- The quotient divided by `10 ^ e`. -/
def Ratio.shift (r : Ratio) (e : Int) : Ratio :=
  ⟨r.num * Nat.pow 10 (-e).toNat, r.den * Nat.pow 10 e.toNat⟩

/-- The magnitude of a number. -/
def Binary.magnitude (b : Binary) : Ratio :=
  .ofBinary b.significand b.exponent

end LinkSurvey.Decimal
