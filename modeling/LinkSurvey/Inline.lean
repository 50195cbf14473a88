import LinkSurvey.Text.Blank
import LinkSurvey.Text.Pattern

/-!
Candidates that can be read off the text of inline blocks without parsing it: absolute web addresses
in script text, and the values of `url(...)` in style text.
-/

namespace LinkSurvey.Inline

open Text

/-- `http://` or `https://` and the non-blank characters after it, of which there is at least one. -/
def addressPattern : Pattern :=
  Pattern.literal true "http" ++ [⟨(· == 's'), .atMostOnce, true⟩] ++ Pattern.literal true "://"
    ++ [⟨fun c => !isBlank c, .once, true⟩, ⟨fun c => !isBlank c, .most, true⟩]

def isQuote (c : Char) : Bool :=
  c == '"' || c == '\''

/-- `url(`, the value with optional quotes and blanks around it, and `)`. The value is kept; it is as
short as the rest allows and stays on one line. -/
def referencePattern : Pattern :=
  Pattern.literal false "url("
    ++ [⟨isBlank, .most, false⟩, ⟨isQuote, .atMostOnce, false⟩,
        ⟨(· != '\n'), .fewest, true⟩,
        ⟨isQuote, .atMostOnce, false⟩, ⟨isBlank, .most, false⟩]
    ++ Pattern.literal false ")"

/-- Absolute web addresses in script text. -/
def scriptAddresses (text : List Char) : List (List Char) :=
  addressPattern.findAll text

/-- Values of the `url(...)` notations in style text, without quotes. -/
def styleReferences (text : List Char) : List (List Char) :=
  referencePattern.findAll text

end LinkSurvey.Inline
