import LinkSurvey.Decimal.Binary

/-!
Decimals with a fixed number of places, rounded to the nearest; a half goes to the even neighbour.
-/

namespace LinkSurvey.Decimal

/-- The nearest natural number to a quotient. -/
def Ratio.round (r : Ratio) : Nat :=
  let below := r.num / r.den
  let gap := 2 * (r.num % r.den)
  if gap < r.den then below
  else if r.den < gap then below + 1
  else if below % 2 = 0 then below else below + 1

/-- A number of units of the last place with the point put in. -/
def pointed (places units : Nat) : String :=
  let fraction := Nat.toDigits 10 (units % Nat.pow 10 places)
  toString (units / Nat.pow 10 places) ++ "."
    ++ String.ofList (List.replicate (places - fraction.length) '0' ++ fraction)

/-- A number with that many places, of which there is at least one. -/
def fixed (places : Nat) (x : Float) : String :=
  let b := Binary.ofFloat x
  (if b.negative then "-" else "") ++ pointed places (b.magnitude.shift (-places)).round

end LinkSurvey.Decimal
