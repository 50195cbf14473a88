/-!
White space of text: the code points with the Unicode property White_Space, and trimming by them.
-/

namespace LinkSurvey.Text

/-- The property White_Space. It holds no format character, so U+200B and U+FEFF are not blank. -/
def isBlank (c : Char) : Bool :=
  let n := c.toNat
  (9 ≤ n && n ≤ 13) || n == 32 || n == 0x85 || n == 0xA0 || n == 0x1680
    || (0x2000 ≤ n && n ≤ 0x200A) || n == 0x2028 || n == 0x2029 || n == 0x202F
    || n == 0x205F || n == 0x3000

def trimStart (cs : List Char) : List Char :=
  cs.dropWhile isBlank

def trimEnd (cs : List Char) : List Char :=
  (cs.reverse.dropWhile isBlank).reverse

def trim (cs : List Char) : List Char :=
  trimEnd (trimStart cs)

/-- A text is blank when every character of it is. -/
def allBlank (cs : List Char) : Bool :=
  cs.all isBlank

end LinkSurvey.Text
