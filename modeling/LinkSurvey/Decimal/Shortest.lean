import LinkSurvey.Decimal.Binary

/-!
The shortest decimal that reads back as a given binary number: of the decimals with the fewest digits
that round to it, the one nearest to it, and of two that are equally near the even one.
-/

namespace LinkSurvey.Decimal

/-- The number `digits * 10 ^ exponent`. -/
structure Scientific where
  digits : Nat
  exponent : Int
  deriving DecidableEq, Repr

/-- The same number without zeros at the end of its digits. -/
def Scientific.ofNat (n : Nat) (e : Int) : Scientific :=
  if 0 < n ∧ n % 10 = 0 then .ofNat (n / 10) (e + 1) else ⟨n, e⟩
termination_by n
decreasing_by omega

def digitCount (n : Nat) : Nat :=
  (Nat.toDigits 10 n).length

/-- The `e` for which a quotient lies between `10 ^ e` and `10 ^ (e + 1)`. -/
def Ratio.magnitude (r : Ratio) : Int :=
  if r.den ≤ r.num then digitCount (r.num / r.den) - 1 else -digitCount ((r.den - 1) / r.num)

/-- Whether `n` lies among the numbers that round to `b`, all seen in units of `10 ^ e`. The ends of
their interval belong to it if the significand is even. -/
def Binary.hits (b : Binary) (e : Int) (n : Nat) : Bool :=
  let upper := (Ratio.ofBinary (2 * b.significand + 1) (b.exponent - 1)).shift e
  let lower :=
    if b.narrowBelow then (Ratio.ofBinary (4 * b.significand - 1) (b.exponent - 2)).shift e
    else (Ratio.ofBinary (2 * b.significand - 1) (b.exponent - 1)).shift e
  if b.significand % 2 = 0 then lower.num ≤ n * lower.den && n * upper.den ≤ upper.num
  else lower.num < n * lower.den && n * upper.den < upper.num

/-- Of the two multiples of `10 ^ e` next to a number the one that rounds to it. -/
def Binary.onGrid? (b : Binary) (e : Int) : Option Nat :=
  let r := b.magnitude.shift e
  let below := r.num / r.den
  let above := below + 1
  match b.hits e below, b.hits e above with
  | true, true =>
    let gap := 2 * (r.num % r.den)
    some (if gap < r.den then below
      else if r.den < gap then above
      else if below % 2 = 0 then below else above)
  | true, false => some below
  | false, true => some above
  | false, false => none

/-- The shortest decimal for the magnitude of a number. Seventeen digits always suffice. -/
def Binary.shortest (b : Binary) : Scientific :=
  if b.significand = 0 then ⟨0, 0⟩
  else
    let top := b.magnitude.magnitude
    let decimal? := fun (k : Nat) =>
      (b.onGrid? (top - k)).map fun n => Scientific.ofNat n (top - k)
    ((List.range 17).findSome? decimal?).getD ⟨0, 0⟩

end LinkSurvey.Decimal
