/-!
The written form of a label with other than ASCII characters: its ASCII characters, a hyphen if there
are any, and digits that say which other characters stand where. A digit string is a mixed-radix
number; the thresholds of its places adapt to the numbers written so far.
-/

namespace LinkSurvey.DomainName.Punycode

/-- The threshold of the place with weight index `k`. -/
def threshold (bias k : Nat) : Nat :=
  if k ≤ bias then 1 else if k ≥ bias + 26 then 26 else k - bias

theorem one_le_threshold (bias k : Nat) : 1 ≤ threshold bias k := by
  grind [threshold]

theorem threshold_le (bias k : Nat) : threshold bias k ≤ 26 := by
  grind [threshold]

def adaptFrom (k delta : Nat) : Nat :=
  if 455 < delta then adaptFrom (k + 36) (delta / 35) else k + 36 * delta / (delta + 38)
termination_by delta

/-- The bias after a number `delta`, the `count`-th one. -/
def adapt (delta count : Nat) (first : Bool) : Nat :=
  let d := if first then delta / 700 else delta / 2
  adaptFrom 0 (d + d / count)

def digitChar (d : Nat) : Char :=
  if d < 26 then Char.ofNat (97 + d) else Char.ofNat (22 + d)

/-- Digits are the letters of either case for 0 to 25 and then `0` to `9`. -/
def digitValue? (c : Char) : Option Nat :=
  if 'a' ≤ c ∧ c ≤ 'z' then some (c.toNat - 97)
  else if 'A' ≤ c ∧ c ≤ 'Z' then some (c.toNat - 65)
  else if '0' ≤ c ∧ c ≤ '9' then some (c.toNat - 22)
  else none

/-- The digits of `q`, lowest place first. -/
def digits (bias q k : Nat) : List Char :=
  let t := threshold bias k
  if q < t then [digitChar q]
  else digitChar (t + (q - t) % (36 - t)) :: digits bias ((q - t) / (36 - t)) (k + 36)
termination_by q
decreasing_by
  have := one_le_threshold bias k
  have := threshold_le bias k
  exact Nat.lt_of_le_of_lt (Nat.div_le_self _ _) (by omega)

/-- What an encoder carries from one character to the next. -/
structure Progress where
  /-- Steps since the last character that was written. -/
  delta : Nat := 0
  bias : Nat := 72
  /-- Characters accounted for. -/
  count : Nat
  /-- No number has been written yet. -/
  first : Bool := true
  /-- The digits so far, last one first. -/
  output : List Char := []

/-- One walk over the label for the code point `m`: smaller characters are stepped over, occurrences
of `m` are written. -/
def Progress.walk (m : Nat) (p : Progress) (label : List Char) : Progress :=
  label.foldl (fun p c =>
    if c.toNat < m then { p with delta := p.delta + 1 }
    else if c.toNat = m then
      { delta := 0, bias := adapt p.delta (p.count + 1) p.first, count := p.count + 1,
        first := false, output := (digits p.bias p.delta 36).reverse ++ p.output }
    else p) p

/-- Walks for the code points `codes`, in increasing order; `n` is the one of the last walk. -/
def walks (label : List Char) (n : Nat) (p : Progress) : List Nat → Progress
  | [] => p
  | m :: codes =>
    let p := { p with delta := p.delta + (m - n) * (p.count + 1) }
    let p := p.walk m label
    walks label (m + 1) { p with delta := p.delta + 1 } codes

def encode (label : List Char) : List Char :=
  let basic := label.filter (·.toNat < 128)
  let codes := ((label.filter (128 ≤ ·.toNat)).map Char.toNat).mergeSort.eraseDups
  let p := walks label 128 { count := basic.length } codes
  basic ++ (if basic.isEmpty then [] else ['-']) ++ p.output.reverse

/-- Read numbers and insert a character for each. `i` is the next position, `n` the next code point,
`value` what the number being read amounts to, `weight` that of its next place with index `k`. -/
def decodeFrom (n i bias value weight k : Nat) (first : Bool) (output : List Char) :
    List Char → Option (List Char)
  | [] => if k = 36 then some output else none
  | c :: cs =>
    match digitValue? c with
    | none => none
    | some d =>
      let value := value + d * weight
      let t := threshold bias k
      if 0xFFFFFFFF < i + value then none
      else if d < t then
        let count := output.length + 1
        let at_ := i + value
        let code := n + at_ / count
        if code.isValidChar then
          let place := at_ % count
          decodeFrom code (place + 1) (adapt value count first) 0 1 36 false
            (output.insertIdx place (Char.ofNat code)) cs
        else none
      else decodeFrom n i bias value (weight * (36 - t)) (k + 36) first output cs

/-- The text before the last hyphen is literal. A hyphen in front is no separator. -/
def decode? (written : List Char) : Option (List Char) :=
  let rev := written.reverse
  let tail := (rev.takeWhile (· != '-')).reverse
  let basic := (rev.dropWhile (· != '-')).drop 1 |>.reverse
  if written.contains '-' && basic.isEmpty then none
  else decodeFrom 128 0 72 0 1 36 true basic tail

end LinkSurvey.DomainName.Punycode
