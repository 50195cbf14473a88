import LinkSurvey.Script.Escape
import LinkSurvey.Script.Fault

/-!
Numbers. A number is read for where it ends; it has no value if its exponent has no digits. What
directly follows it is neither a digit nor part of a name, or else there is no token at all.
-/

namespace LinkSurvey.Script

structure Numeral where
  rest : List Char
  faults : List Fault := []
  hasValue : Bool := true
  /-- Whether the characters form a token. -/
  isToken : Bool := true
  deriving DecidableEq, Repr

namespace Numeral

/-- Reads digits and separators after a digit, and says whether a separator lacks a digit after it. -/
def digits (isDigit : Char → Bool) : List Char → List Char × Bool
  | '_' :: c :: cs => if isDigit c then digits isDigit cs else (c :: cs, true)
  | ['_'] => ([], true)
  | c :: cs => if isDigit c then digits isDigit cs else (c :: cs, false)
  | [] => ([], false)

def separatorFaults (misplaced : Bool) : List Fault :=
  if misplaced then [.malformedNumber] else []

/-- Refuses what must not directly follow a number. -/
def checked (n : Numeral) : Numeral :=
  match n.rest with
  | c :: cs =>
    if c.isDigit || isNameStart c then
      ⟨cs.dropWhile isNameStart, .malformedNumber :: n.faults, n.hasValue, false⟩
    else n
  | [] => n

/-- Reads an exponent after its letter: an optional sign and digits. -/
def exponent (faults : List Fault) (cs : List Char) : Numeral :=
  let unsigned := match cs with
    | '+' :: rest | '-' :: rest => rest
    | _ => cs
  match unsigned with
  | c :: rest =>
    if c.isDigit then
      match digits Char.isDigit rest with
      | (rest, misplaced) => ⟨rest, separatorFaults misplaced ++ faults, true, true⟩
    else ⟨unsigned, .malformedNumber :: faults, false, true⟩
  | [] => ⟨[], .unexpectedEnd :: faults, false, true⟩

def optionalExponent (faults : List Fault) : List Char → Numeral
  | 'e' :: cs | 'E' :: cs => exponent faults cs
  | cs => ⟨cs, faults, true, true⟩

/-- Reads what may follow a decimal point. -/
def fraction (faults : List Fault) : List Char → Numeral
  | c :: cs =>
    if c.isDigit then
      match digits Char.isDigit cs with
      | (rest, misplaced) => (optionalExponent (separatorFaults misplaced ++ faults) rest).checked
    else (optionalExponent faults (c :: cs)).checked
  | [] => ⟨[], faults, true, true⟩

/-- Reads a number with a prefix for its base, from behind the prefix. -/
def based (isDigit : Char → Bool) : List Char → Numeral
  | c :: cs =>
    if isDigit c then
      match digits isDigit cs with
      | (rest, true) => ⟨rest, [.malformedNumber], true, false⟩
      | ('n' :: rest, false) => checked ⟨rest, [], true, true⟩
      | (rest, false) => checked ⟨rest, [], true, true⟩
    else ⟨c :: cs, [.malformedNumber], true, false⟩
  | [] => ⟨[], [.unexpectedEnd], true, false⟩

/-- Reads digits after a leading zero, which are octal unless one of them is eight or nine. -/
def afterZero (cs : List Char) : Numeral :=
  let isDecimal := (cs.takeWhile Char.isDigit).any fun c => !isOctal c
  match cs.dropWhile Char.isDigit with
  | '.' :: rest => if isDecimal then fraction [] rest else ⟨'.' :: rest, [], true, true⟩
  | 'e' :: rest => if isDecimal then exponent [] rest else checked ⟨'e' :: rest, [], true, true⟩
  | rest => checked ⟨rest, [], true, true⟩

/-- Reads a number from behind its first digit. -/
def afterFirst (first : Char) (cs : List Char) : Numeral :=
  if first == '0' then
    match cs with
    | 'b' :: rest | 'B' :: rest => based (fun c => c == '0' || c == '1') rest
    | 'o' :: rest | 'O' :: rest => based isOctal rest
    | 'x' :: rest | 'X' :: rest => based (fun c => (hexValue? c).isSome) rest
    | 'e' :: rest | 'E' :: rest => exponent [] rest
    | '.' :: rest => fraction [] rest
    | 'n' :: rest => checked ⟨rest, [], true, true⟩
    | c :: rest => if c.isDigit then afterZero cs else checked ⟨c :: rest, [], true, true⟩
    | [] => ⟨[], [], true, true⟩
  else
    match digits Char.isDigit cs with
    | ('.' :: rest, misplaced) => fraction (separatorFaults misplaced) rest
    | ('n' :: rest, misplaced) => checked ⟨rest, separatorFaults misplaced, true, true⟩
    | (rest, misplaced) => (optionalExponent (separatorFaults misplaced) rest).checked

end Numeral

end LinkSurvey.Script
