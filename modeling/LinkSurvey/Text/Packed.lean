/-!
Tables of numbers as text. A number is written with the digits `A`-`Z`, `a`-`z`, `0`-`9`, `+`, `/`,
which stand for 0 to 63: five bits each, lowest first, and every digit but the last of a number
carries 32 more. Character properties are kept this way, since their tables are long and regular.
-/

namespace LinkSurvey.Text.Packed

/-- The value of a digit. -/
def digit (c : Char) : Nat :=
  if 'A' ≤ c ∧ c ≤ 'Z' then c.toNat - 65
  else if 'a' ≤ c ∧ c ≤ 'z' then c.toNat - 71
  else if '0' ≤ c ∧ c ≤ '9' then c.toNat + 4
  else if c = '+' then 62 else 63

/-- Numbers read from digits; `value` and `scale` belong to the number being read. -/
def numbersFrom (value scale : Nat) : List Char → List Nat
  | [] => []
  | c :: cs =>
    let d := digit c
    if d < 32 then (value + d * scale) :: numbersFrom 0 1 cs
    else numbersFrom (value + (d - 32) * scale) (scale * 32) cs

def numbers (lines : List String) : List Nat :=
  numbersFrom 0 1 (String.join lines).toList

/-- Intervals from pairs: how far the next one starts after the end of the last, and its length less
one. -/
def intervalsFrom (start : Nat) : List Nat → List (Nat × Nat)
  | gap :: extent :: rest =>
    (start + gap, start + gap + extent) :: intervalsFrom (start + gap + extent + 1) rest
  | _ => []

def intervals (lines : List String) : Array (Nat × Nat) :=
  (intervalsFrom 0 (numbers lines)).toArray

/-- Whether a code point lies in one of the intervals. -/
def holds (table : Array (Nat × Nat)) (c : Char) : Bool :=
  table.any fun (first, last) => first ≤ c.toNat && c.toNat ≤ last

end LinkSurvey.Text.Packed
