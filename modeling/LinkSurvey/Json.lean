import LinkSurvey.Decimal.Shortest

/-!
JSON documents and their text. Numbers are kept as they are written. Every item of an array and every
member of an object stands on a line of its own, indented by two blanks for each level.
-/

namespace LinkSurvey

inductive Json where
  | null
  | bool (value : Bool)
  | number (text : List Char)
  | string (value : List Char)
  | array (items : List Json)
  | object (members : List (List Char × Json))

namespace Json

def ofNat (n : Nat) : Json :=
  .number (Nat.toDigits 10 n)

def ofString (s : String) : Json :=
  .string s.toList

/-- An object with members in this order. -/
def ofMembers (members : List (String × Json)) : Json :=
  .object (members.map fun (key, value) => (key.toList, value))

/-- Digits with a point after the first `n` of them, both sides filled up with zeros. -/
def positional (digits : List Char) (n : Int) : List Char :=
  if n ≤ 0 then ['0', '.'] ++ List.replicate (-n).toNat '0' ++ digits
  else if digits.length ≤ n then
    digits ++ List.replicate (n.toNat - digits.length) '0' ++ ['.', '0']
  else digits.take n.toNat ++ ['.'] ++ digits.drop n.toNat

/-- One digit, the others after a point, and a power of ten with its sign. -/
def exponential (digits : List Char) (e : Int) : List Char :=
  digits.take 1 ++ (if digits.length ≤ 1 then [] else '.' :: digits.drop 1) ++ ['e']
    ++ (if e < 0 then ['-'] else ['+']) ++ Nat.toDigits 10 e.natAbs

/-- The number with the fewest digits that reads back. Powers of ten from -5 to 15 are written out. -/
def ofBinary (b : Decimal.Binary) : Json :=
  let s := b.shortest
  let digits := Nat.toDigits 10 s.digits
  let e := s.exponent + digits.length - 1
  .number ((if b.negative then ['-'] else [])
    ++ if -5 ≤ e ∧ e ≤ 15 then positional digits (e + 1) else exponential digits e)

/-- There is no notation for infinities and for what is no number. -/
def ofFloat (x : Float) : Json :=
  if Decimal.isFinite x then ofBinary (.ofFloat x) else .null

def hexDigit (n : Nat) : Char :=
  if n < 10 then Char.ofNat (48 + n) else Char.ofNat (87 + n)

/-- A character within a string. Quotes, backslashes and control characters are escaped. -/
def escape (c : Char) : List Char :=
  if c = '"' then ['\\', '"']
  else if c = '\\' then ['\\', '\\']
  else if c = '\x08' then ['\\', 'b']
  else if c = '\t' then ['\\', 't']
  else if c = '\n' then ['\\', 'n']
  else if c = '\x0c' then ['\\', 'f']
  else if c = '\r' then ['\\', 'r']
  else if c.toNat < 32 then
    ['\\', 'u', '0', '0', hexDigit (c.toNat / 16), hexDigit (c.toNat % 16)]
  else [c]

def quoted (s : List Char) : List Char :=
  ['"'] ++ s.flatMap escape ++ ['"']

/-- The start of a line at a level. -/
def newLine (level : Nat) : List Char :=
  '\n' :: List.replicate (2 * level) ' '

mutual

/-- The text of a document whose lines are indented to a level, but for the first. -/
def write (level : Nat) : Json → List Char
  | .null => ['n', 'u', 'l', 'l']
  | .bool true => ['t', 'r', 'u', 'e']
  | .bool false => ['f', 'a', 'l', 's', 'e']
  | .number text => text
  | .string value => quoted value
  | .array [] => ['[', ']']
  | .array (item :: items) =>
    ['['] ++ newLine (level + 1) ++ write (level + 1) item ++ writeItems (level + 1) items
      ++ newLine level ++ [']']
  | .object [] => ['\x7b', '\x7d']
  | .object ((key, value) :: members) =>
    ['\x7b'] ++ newLine (level + 1) ++ quoted key ++ [':', ' '] ++ write (level + 1) value
      ++ writeMembers (level + 1) members ++ newLine level ++ ['\x7d']

/-- The items after the first. -/
def writeItems (level : Nat) : List Json → List Char
  | [] => []
  | item :: items => [','] ++ newLine level ++ write level item ++ writeItems level items

/-- The members after the first. -/
def writeMembers (level : Nat) : List (List Char × Json) → List Char
  | [] => []
  | (key, value) :: members =>
    [','] ++ newLine level ++ quoted key ++ [':', ' '] ++ write level value
      ++ writeMembers level members

end

def text (document : Json) : List Char :=
  document.write 0

end Json

end LinkSurvey
