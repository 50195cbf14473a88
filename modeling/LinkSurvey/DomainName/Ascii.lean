import LinkSurvey.DomainName.Direction
import LinkSurvey.DomainName.Joining
import LinkSurvey.DomainName.Mapping
import LinkSurvey.DomainName.Punycode

/-!
The ASCII form of a domain name. The name is mapped and put into normal form, its labels are checked,
and those with other than ASCII characters are written with the prefix `xn--`. Digits are read up to
twice as far as there are characters that are written in them, but a character may take more than two
digits, so not every form can be read again.
-/

namespace LinkSurvey.DomainName

open Text

/-- ASCII characters that a domain name may not hold. -/
def isForbidden (c : Char) : Bool :=
  c.toNat ≤ 32 || c.toNat == 127
    || ['#', '/', ':', '<', '>', '?', '@', '[', '\\', ']', '^', '|', '%'].contains c

def isAscii (cs : List Char) : Bool :=
  cs.all (·.toNat < 128)

/-- Parts of a text between separators; one more than there are separators. -/
def splitOn (separator : Char) : List Char → List (List Char)
  | [] => [[]]
  | c :: cs =>
    if c = separator then [] :: splitOn separator cs
    else
      match splitOn separator cs with
      | [] => [[c]]
      | part :: parts => (c :: part) :: parts

def join (separator : Char) : List (List Char) → List Char
  | [] => []
  | [part] => part
  | part :: parts => part ++ separator :: join separator parts

/-- A label as it reads and as it is written in ASCII. -/
structure Label where
  reading : List Char
  ascii : List Char

/-- The longest label, in characters, that is written in or read from digits. -/
def longestEncoded : Nat := 1000

def longestDecoded : Nat := 2000

/-- A label with the prefix `xn--` is read; it has to stand for a mapped label with other than ASCII
characters. Any other label stands for itself. -/
def Label.of? (label : List Char) : Option Label :=
  if label.take 4 = ['x', 'n', '-', '-'] then
    if label.length > longestDecoded + 4 then none
    else
      match if isAscii label then Punycode.decode? (label.drop 4) else none with
      | none => none
      | some reading =>
        if isAscii reading || !reading.all isValid || Canonical.compose reading != reading then none
        else some ⟨reading, label⟩
  else if isAscii label then some ⟨label, label⟩
  else if label.length > longestEncoded then none
  else some ⟨label, ['x', 'n', '-', '-'] ++ Punycode.encode label⟩

/-- What a label has to satisfy on its own. -/
def Label.wellFormed (l : Label) : Bool :=
  !l.reading.head?.any isMark && joinersFit [] l.reading && !l.reading.any isForbidden

/-- Whether the name of these labels is right-to-left. -/
def isRightToLeft (labels : List Label) : Bool :=
  labels.any fun l => !isAscii l.reading && l.reading.any fun c => (direction c).isRight

/-- The ASCII form of a decoded name, if it has one. -/
def toAscii? (name : List Char) : Option (List Char) :=
  match mapped? name with
  | none => none
  | some text =>
    match (splitOn '.' (Canonical.compose text)).mapM Label.of? with
    | none => none
    | some labels =>
      if !labels.all Label.wellFormed then none
      else if isRightToLeft labels && !labels.all fun l => oneDirection l.reading then none
      else some (join '.' (labels.map Label.ascii))

end LinkSurvey.DomainName
