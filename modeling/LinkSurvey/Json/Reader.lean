import LinkSurvey.Json

/-!
Reading JSON documents. Every reader takes what it reads off the front of a text and gives the rest.
Blanks are allowed around every value, a number is kept as it is written, and nothing may follow the
document.
-/

namespace LinkSurvey.Json

namespace Reader

def isGap (c : Char) : Bool :=
  c == ' ' || c == '\t' || c == '\n' || c == '\r'

def skipGap (cs : List Char) : List Char :=
  cs.dropWhile isGap

def hexValue? (c : Char) : Option Nat :=
  if '0' ≤ c ∧ c ≤ '9' then some (c.toNat - 48)
  else if 'a' ≤ c ∧ c ≤ 'f' then some (c.toNat - 87)
  else if 'A' ≤ c ∧ c ≤ 'F' then some (c.toNat - 55)
  else none

/-- Four hexadecimal digits. -/
def codeUnit? : List Char → Option (Nat × List Char)
  | a :: b :: c :: d :: cs => do
    let a ← hexValue? a
    let b ← hexValue? b
    let c ← hexValue? c
    let d ← hexValue? d
    return (((a * 16 + b) * 16 + c) * 16 + d, cs)
  | _ => none

/-- The second half of a character outside the basic plane whose first half is `high`. -/
def lowerHalf? (high : Nat) : List Char → Option (Char × List Char)
  | '\\' :: 'u' :: cs => do
    let (low, cs) ← codeUnit? cs
    if 0xDC00 ≤ low ∧ low < 0xE000 then
      return (Char.ofNat (0x10000 + (high - 0xD800) * 0x400 + (low - 0xDC00)), cs)
    else none
  | _ => none

/-- A character that is given by its code units. -/
def codedChar? (cs : List Char) : Option (Char × List Char) := do
  let (unit, cs) ← codeUnit? cs
  if unit < 0xD800 ∨ 0xE000 ≤ unit then return (Char.ofNat unit, cs)
  else if unit < 0xDC00 then lowerHalf? unit cs
  else none

/-- What a backslash in front of a character makes of it. -/
def unescape? (c : Char) : Option Char :=
  if c = '"' ∨ c = '\\' ∨ c = '/' then some c
  else if c = 'b' then some '\x08'
  else if c = 't' then some '\t'
  else if c = 'n' then some '\n'
  else if c = 'f' then some '\x0c'
  else if c = 'r' then some '\r'
  else none

/-- One character within a string. -/
def char? : List Char → Option (Char × List Char)
  | [] => none
  | c :: cs =>
    if c = '\\' then
      match cs with
      | [] => none
      | e :: rest => if e = 'u' then codedChar? rest else (unescape? e).map (·, rest)
    else if c = '"' ∨ c.toNat < 32 then none
    else some (c, cs)

/-- The rest of a string of at most so many characters, up to the quotes behind it. -/
def stringRest? : Nat → List Char → Option (List Char × List Char)
  | _, '"' :: cs => some ([], cs)
  | 0, _ => none
  | n + 1, cs => do
    let (c, cs) ← char? cs
    let (s, cs) ← stringRest? n cs
    return (c :: s, cs)

def string? : List Char → Option (List Char × List Char)
  | '"' :: cs => stringRest? cs.length cs
  | _ => none

/-- One or more digits. -/
def digits? (cs : List Char) : Option (List Char × List Char) :=
  if (cs.takeWhile Char.isDigit).isEmpty then none
  else some (cs.takeWhile Char.isDigit, cs.dropWhile Char.isDigit)

/-- The digits in front of the point. A zero is not followed by others. -/
def wholePart? : List Char → Option (List Char × List Char)
  | '0' :: cs => some (['0'], cs)
  | cs => digits? cs

def fraction? : List Char → Option (List Char × List Char)
  | '.' :: cs => (digits? cs).map fun (digits, cs) => ('.' :: digits, cs)
  | cs => some ([], cs)

def exponent? : List Char → Option (List Char × List Char)
  | c :: cs =>
    if c = 'e' ∨ c = 'E' then
      let (sign, rest) :=
        match cs with
        | '+' :: rest => (['+'], rest)
        | '-' :: rest => (['-'], rest)
        | rest => ([], rest)
      (digits? rest).map fun (digits, rest) => (c :: sign ++ digits, rest)
    else some ([], c :: cs)
  | [] => some ([], [])

def magnitude? (cs : List Char) : Option (List Char × List Char) := do
  let (whole, cs) ← wholePart? cs
  let (fraction, cs) ← fraction? cs
  let (exponent, cs) ← exponent? cs
  return (whole ++ fraction ++ exponent, cs)

def number? : List Char → Option (List Char × List Char)
  | '-' :: cs => (magnitude? cs).map fun (text, cs) => ('-' :: text, cs)
  | cs => magnitude? cs

/-- A value that is written as a word. -/
def word? (cs : List Char) : Option (Json × List Char) :=
  [("null", Json.null), ("true", .bool true), ("false", .bool false)].findSome? fun (word, value) =>
    if word.toList.isPrefixOf cs then some (value, cs.drop word.length) else none

/-- A value without parts. -/
def scalar? (cs : List Char) : Option (Json × List Char) :=
  match cs with
  | '"' :: _ => (string? cs).map fun (s, cs) => (.string s, cs)
  | _ => (word? cs).orElse fun _ => (number? cs).map fun (text, cs) => (.number text, cs)

/-- The name of a member, with the colon behind it. -/
def key? (cs : List Char) : Option (List Char × List Char) := do
  let (key, cs) ← string? (skipGap cs)
  match skipGap cs with
  | ':' :: cs => return (key, skipGap cs)
  | _ => none

mutual

/-- A value in which no more than so many steps from part to part are made. -/
def value? : Nat → List Char → Option (Json × List Char)
  | 0, _ => none
  | n + 1, '[' :: cs =>
    match skipGap cs with
    | ']' :: cs => some (.array [], cs)
    | cs => do
      let (item, cs) ← value? n cs
      let (items, cs) ← items? n (skipGap cs)
      return (.array (item :: items), cs)
  | n + 1, '\x7b' :: cs =>
    match skipGap cs with
    | '\x7d' :: cs => some (.object [], cs)
    | cs => do
      let (key, cs) ← key? cs
      let (value, cs) ← value? n cs
      let (members, cs) ← members? n (skipGap cs)
      return (.object ((key, value) :: members), cs)
  | _ + 1, cs => scalar? cs

/-- The items after the first, and the end of the array. -/
def items? : Nat → List Char → Option (List Json × List Char)
  | _, ']' :: cs => some ([], cs)
  | n + 1, ',' :: cs => do
    let (item, cs) ← value? n (skipGap cs)
    let (items, cs) ← items? n (skipGap cs)
    return (item :: items, cs)
  | _, _ => none

/-- The members after the first, and the end of the object. -/
def members? : Nat → List Char → Option (List (List Char × Json) × List Char)
  | _, '\x7d' :: cs => some ([], cs)
  | n + 1, ',' :: cs => do
    let (key, cs) ← key? cs
    let (value, cs) ← value? n cs
    let (members, cs) ← members? n (skipGap cs)
    return ((key, value) :: members, cs)
  | _, _ => none

end

end Reader

/-- The document that a text holds. -/
def ofText? (text : List Char) : Option Json := do
  let (document, rest) ← Reader.value? text.length (Reader.skipGap text)
  if (Reader.skipGap rest).isEmpty then some document else none

end LinkSurvey.Json
