import LinkSurvey.Text.Blank

/-!
Texts in quotes, for a person to read: what would not be seen or would end the quotes is escaped.
-/

namespace LinkSurvey.Text

def hexDigits (n : Nat) : List Char :=
  Nat.toDigits 16 n

/-- Characters that leave no mark of their own: controls and all blanks but the space. -/
def isUnseen (c : Char) : Bool :=
  c.toNat < 32 || (127 ≤ c.toNat && c.toNat < 160) || (isBlank c && c != ' ')

/-- A character within quotes; `marks` are the ones that a backslash goes before. -/
def quotedChar (marks : List Char) (c : Char) : List Char :=
  if c = '\x00' then ['\\', '0']
  else if c = '\t' then ['\\', 't']
  else if c = '\n' then ['\\', 'n']
  else if c = '\r' then ['\\', 'r']
  else if marks.any (· == c) then ['\\', c]
  else if isUnseen c then ['\\', 'u', '\x7b'] ++ hexDigits c.toNat ++ ['\x7d']
  else [c]

/-- A text in double quotes. -/
def quotedText (s : String) : String :=
  String.ofList (['"'] ++ s.toList.flatMap (quotedChar ['"', '\\']) ++ ['"'])

/-- The path of a file in double quotes. Single quotes are escaped as well. -/
def quotedPath (s : String) : String :=
  String.ofList (['"'] ++ s.toList.flatMap (quotedChar ['"', '\'', '\\']) ++ ['"'])

end LinkSurvey.Text
