/-!
What markup is made of once it is cut into tags, text and the rest.
-/

namespace LinkSurvey.Html

abbrev Text := List Char

abbrev Attributes := List (String × Text)

structure Tag where
  name : String
  attributes : Attributes := []
  selfClosing : Bool := false
  deriving DecidableEq, Repr

/-- The value of an attribute. -/
def Tag.attribute? (t : Tag) (name : String) : Option Text :=
  t.attributes.lookup name

structure Doctype where
  name : Option Text := none
  publicId : Option Text := none
  systemId : Option Text := none
  forceQuirks : Bool := false
  deriving DecidableEq, Repr

/-- What is known about blanks in a piece of text. -/
inductive Blankness where
  | unsplit
  | blank
  | solid
  deriving DecidableEq, Repr

inductive Token where
  | doctype (d : Doctype)
  | start (t : Tag)
  | stop (t : Tag)
  | text (blankness : Blankness) (text : Text)
  /-- A character that is never part of a document. -/
  | null
  | comment
  | eof
  deriving DecidableEq, Repr

/-- Blanks between tags. -/
def isSpace (c : Char) : Bool :=
  c == ' ' || c == '\t' || c == '\n' || c == '\x0c' || c == '\r'

def allSpace (text : Text) : Bool :=
  text.all isSpace

/-- The first run of blanks, or of other characters, and the rest. -/
def splitRun (text : Text) : Option (Token × Text) :=
  match text with
  | [] => none
  | c :: _ =>
    let (run, rest) := text.span fun d => isSpace d == isSpace c
    some (.text (if isSpace c then .blank else .solid) run, rest)

/-- How the text after a start tag is to be read. -/
inductive RawKind where
  /-- Text with character references. -/
  | escapable
  /-- Text alone. -/
  | raw
  /-- Text in which a comment may hide the end tag. -/
  | script
  | scriptEscaped
  | scriptDoubleEscaped
  deriving DecidableEq, Repr

end LinkSurvey.Html
