import LinkSurvey.Script.Letter

/-!
Escape sequences, read from the character after the backslash. A malformed one ends where it goes
wrong, so what follows is read on as it is. The rest is never longer than the text an escape is read
from, and hence reading the text around escapes ends.
-/

namespace LinkSurvey.Script

def hexValue? (c : Char) : Option Nat :=
  if '0' ≤ c ∧ c ≤ '9' then some (c.toNat - 48)
  else if 'a' ≤ c ∧ c ≤ 'f' then some (c.toNat - 87)
  else if 'A' ≤ c ∧ c ≤ 'F' then some (c.toNat - 55)
  else none

/-- Reads so many hexadecimal digits after a value. -/
def fixedHex : Nat → Nat → List Char → Option Nat × List Char
  | 0, value, cs => (some value, cs)
  | _ + 1, _, [] => (none, [])
  | count + 1, value, c :: cs =>
    match hexValue? c with
    | some d => fixedHex count (value * 16 + d) cs
    | none => (none, c :: cs)

/-- Reads hexadecimal digits up to a closing brace, of a value within the code points. -/
def bracedHex (value : Nat) : List Char → Option Nat × List Char
  | [] => (none, [])
  | c :: cs =>
    match hexValue? c with
    | some d => if value * 16 + d ≤ 0x10FFFF then bracedHex (value * 16 + d) cs else (none, cs)
    | none => if c == '\x7d' then (some value, cs) else (none, c :: cs)

/-- Reads what follows an opening brace, which is at least one digit. -/
def codePoint : List Char → Option Nat × List Char
  | [] => (none, [])
  | c :: cs =>
    match hexValue? c with
    | some d => bracedHex d cs
    | none => (none, c :: cs)

/-- What a Unicode escape stands for. -/
inductive CodeUnits where
  | single (n : Nat)
  /-- A code point written as two surrogates. -/
  | paired (n : Nat)
  /-- A leading surrogate and something else than a trailing one. -/
  | unpaired (high low : Nat)
  deriving DecidableEq, Repr

/-- Reads what follows `\u`. A leading surrogate takes the escape after it along. -/
def unicodeEscape : List Char → Option CodeUnits × List Char
  | '\x7b' :: cs =>
    match codePoint cs with
    | (n, rest) => (n.map .single, rest)
  | cs =>
    match fixedHex 4 0 cs with
    | (none, rest) => (none, rest)
    | (some high, '\\' :: 'u' :: next) =>
      if 0xD800 ≤ high ∧ high ≤ 0xDBFF then
        match fixedHex 4 0 next with
        | (none, rest) => (none, rest)
        | (some low, rest) =>
          if 0xDC00 ≤ low ∧ low ≤ 0xDFFF then
            (some (.paired ((high - 0xD800) * 0x400 + (low - 0xDC00) + 0x10000)), rest)
          else (some (.unpaired high low), rest)
      else (some (.single high), '\\' :: 'u' :: next)
    | (some n, rest) => (some (.single n), rest)

/-- How a surrogate is kept in a text, which cannot hold it: by its escape. -/
def writtenUnit (n : Nat) : List Char :=
  '\\' :: 'u' :: Nat.toDigits 16 n

def CodeUnits.text : CodeUnits → List Char
  | .single n | .paired n => if n.isValidChar then [Char.ofNat n] else writtenUnit n
  | .unpaired high low => writtenUnit high ++ writtenUnit low

/-- What an escape stands for, and what follows it. -/
structure Escape where
  text : List Char
  rest : List Char
  wellFormed : Bool := true
  deriving DecidableEq, Repr

/-- Letters that stand for control characters. -/
def controlLetters : List (Char × Char) := [
  ('b', '\x08'), ('f', '\x0c'), ('n', '\n'), ('r', '\r'), ('t', '\t'), ('v', '\x0b')]

/-- A carriage return and the line feed that belongs to it are one line end. -/
def afterReturn : List Char → List Char
  | '\n' :: cs => cs
  | cs => cs

def isOctal (c : Char) : Bool :=
  '0' ≤ c && c ≤ '7'

/-- Reads at most so many octal digits after a value. -/
def octal : Nat → Nat → List Char → Nat × List Char
  | count + 1, value, c :: cs =>
    if isOctal c then octal count (value * 8 + (c.toNat - 48)) cs else (value, c :: cs)
  | _, value, cs => (value, cs)

def startsWithDigit : List Char → Bool
  | c :: _ => c.isDigit
  | [] => false

/-- Reads what follows a backslash. Templates have no octal escapes. -/
def escape (inTemplate : Bool) : List Char → Escape
  | [] => ⟨[], [], true⟩
  | c :: cs =>
    if c == '\r' then ⟨[], afterReturn cs, true⟩
    else if isLineEnd c then ⟨[], cs, true⟩
    else if c == 'x' then
      match fixedHex 2 0 cs with
      | (some n, rest) => ⟨[Char.ofNat n], rest, true⟩
      | (none, rest) => ⟨[], rest, false⟩
    else if c == 'u' then
      match unicodeEscape cs with
      | (some units, rest) => ⟨units.text, rest, true⟩
      | (none, rest) => ⟨[], rest, false⟩
    else if c == '0' && !startsWithDigit cs then ⟨['\x00'], cs, true⟩
    else if inTemplate && c.isDigit then ⟨[], if c == '0' then cs.drop 1 else cs, false⟩
    else if isOctal c then
      match octal (if c ≤ '3' then 2 else 1) (c.toNat - 48) cs with
      | (n, rest) => ⟨[Char.ofNat n], rest, true⟩
    else
      match controlLetters.lookup c with
      | some control => ⟨[control], cs, true⟩
      | none => ⟨[c], cs, true⟩

theorem fixedHex_length_le (count value : Nat) (cs : List Char) :
    (fixedHex count value cs).2.length ≤ cs.length := by
  fun_induction fixedHex count value cs with
  | case1 | case2 | case4 => exact Nat.le_refl _
  | case3 value count c cs d hd ih => exact Nat.le_succ_of_le ih

theorem bracedHex_length_le (value : Nat) (cs : List Char) :
    (bracedHex value cs).2.length ≤ cs.length := by
  fun_induction bracedHex value cs with
  | case1 | case5 => exact Nat.le_refl _
  | case2 value c cs d hd hfits ih => exact Nat.le_succ_of_le ih
  | case3 | case4 => exact Nat.le_succ _

theorem codePoint_length_le (cs : List Char) : (codePoint cs).2.length ≤ cs.length := by
  unfold codePoint
  split
  · simp
  · split
    · exact Nat.le_succ_of_le (bracedHex_length_le _ _)
    · simp

theorem unicodeEscape_length_le (cs : List Char) : (unicodeEscape cs).2.length ≤ cs.length := by
  unfold unicodeEscape
  split
  · exact Nat.le_succ_of_le (codePoint_length_le _)
  · have first := fixedHex_length_le 4 0 cs
    split
    · simp_all
    · rename_i next h
      have second := fixedHex_length_le 4 0 next
      rw [h] at first
      simp only [List.length_cons] at first
      repeat' split
      all_goals simp_all
      all_goals omega
    · simp_all

theorem octal_length_le (count value : Nat) (cs : List Char) :
    (octal count value cs).2.length ≤ cs.length := by
  fun_induction octal count value cs with
  | case1 count value c cs hc ih => exact Nat.le_succ_of_le ih
  | case2 | case3 => exact Nat.le_refl _

theorem afterReturn_length_le (cs : List Char) : (afterReturn cs).length ≤ cs.length := by
  unfold afterReturn
  split <;> simp

theorem escape_length_le (inTemplate : Bool) (cs : List Char) :
    (escape inTemplate cs).rest.length ≤ cs.length := by
  cases cs with
  | nil => simp [escape]
  | cons c cs =>
    have ret := afterReturn_length_le cs
    have hex := fixedHex_length_le 2 0 cs
    have unicode := unicodeEscape_length_le cs
    have oct := octal_length_le (if c ≤ '3' then 2 else 1) (c.toNat - 48) cs
    unfold escape
    simp only
    repeat' split
    all_goals simp_all
    all_goals omega

end LinkSurvey.Script
