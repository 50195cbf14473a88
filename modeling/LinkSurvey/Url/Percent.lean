import LinkSurvey.Text.Utf8

/-!
Percent-encoding. Each component of a URL has its own set of ASCII characters that are encoded; other
than ASCII characters always are, byte by byte. What is already encoded stays as it is.
-/

namespace LinkSurvey.Url

open Text

def hexDigit (n : Nat) : Char :=
  if n < 10 then Char.ofNat (48 + n) else Char.ofNat (55 + n)

def hexValue? (c : Char) : Option Nat :=
  if '0' ≤ c ∧ c ≤ '9' then some (c.toNat - 48)
  else if 'a' ≤ c ∧ c ≤ 'f' then some (c.toNat - 87)
  else if 'A' ≤ c ∧ c ≤ 'F' then some (c.toNat - 55)
  else none

def percentByte (b : UInt8) : List Char :=
  ['%', hexDigit (b.toNat / 16), hexDigit (b.toNat % 16)]

def percentChar (encoded : Char → Bool) (c : Char) : List Char :=
  if c.toNat < 128 && !encoded c then [c] else (String.utf8EncodeChar c).flatMap percentByte

def percentEncode (encoded : Char → Bool) (cs : List Char) : List Char :=
  cs.flatMap (percentChar encoded)

/-- The bytes of a text, with encoded ones decoded. A `%` without two digits is itself. -/
def percentDecode : List Char → List UInt8
  | [] => []
  | '%' :: a :: b :: rest =>
    match hexValue? a, hexValue? b with
    | some x, some y => UInt8.ofNat (16 * x + y) :: percentDecode rest
    | _, _ => 37 :: percentDecode (a :: b :: rest)
  | c :: rest => String.utf8EncodeChar c ++ percentDecode rest

def inControls (c : Char) : Bool :=
  c.toNat < 32 || c.toNat == 127

def inFragment (c : Char) : Bool :=
  inControls c || [' ', '"', '<', '>', '`'].contains c

def inQuery (c : Char) : Bool :=
  inControls c || [' ', '"', '#', '<', '>'].contains c

/-- In the query of a web-like URL, apostrophes are encoded too. -/
def inSpecialQuery (c : Char) : Bool :=
  inQuery c || c == '\''

def inPath (c : Char) : Bool :=
  inFragment c || ['#', '?', '\x7b', '\x7d'].contains c

def inUserinfo (c : Char) : Bool :=
  inPath c || ['/', ':', ';', '=', '@', '[', '\\', ']', '^', '|'].contains c

end LinkSurvey.Url
