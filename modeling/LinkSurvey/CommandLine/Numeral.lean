/-!
Whole numbers as arguments: decimal digits after an optional sign. What is wrong with a numeral is told
by the first character at which it goes wrong.
-/

namespace LinkSurvey.CommandLine

inductive NumeralFault where
  | empty
  | notADigit
  | tooLarge
  | tooSmall
  | outside (value : Int) (greatest : Nat)
  deriving DecidableEq, Repr

def NumeralFault.message : NumeralFault → String
  | .empty => "cannot parse integer from empty string"
  | .notADigit => "invalid digit found in string"
  | .tooLarge => "number too large to fit in target type"
  | .tooSmall => "number too small to fit in target type"
  | .outside value greatest =>
    toString value ++ " is not in 0..=" ++ toString greatest

/-- Digits after a number `n` has been read. The number stays at or below `limit`. -/
def digits (limit : Nat) (overflow : NumeralFault) (n : Nat) :
    List Char → Except NumeralFault Nat
  | [] => .ok n
  | c :: cs =>
    if c.isDigit then
      let m := 10 * n + (c.toNat - 48)
      if limit < m then .error overflow else digits limit overflow m cs
    else .error .notADigit

/-- A numeral for a number from 0 to `limit`. -/
def unsigned (limit : Nat) : List Char → Except NumeralFault Nat
  | [] => .error .empty
  | ['+'] => .error .notADigit
  | '+' :: cs => digits limit .tooLarge 0 cs
  | cs => digits limit .tooLarge 0 cs

/-- A numeral for an integer of 64 bits. -/
def signed : List Char → Except NumeralFault Int
  | ['-'] => .error .notADigit
  | '-' :: cs => (digits (Nat.pow 2 63) .tooSmall 0 cs).map fun n => -(n : Int)
  | cs => (unsigned (Nat.pow 2 63 - 1) cs).map Int.ofNat

/-- A numeral for an integer of 64 bits that has to lie between 0 and `greatest`. -/
def bounded (greatest : Nat) (cs : List Char) : Except NumeralFault Nat := do
  let n ← signed cs
  if 0 ≤ n ∧ n ≤ greatest then .ok n.toNat else .error (.outside n greatest)

end LinkSurvey.CommandLine
