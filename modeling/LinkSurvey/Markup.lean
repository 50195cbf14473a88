import LinkSurvey.Html.Document
import LinkSurvey.Inline
import LinkSurvey.ParseStatus

/-!
What a page's markup holds for a survey: the values of link attributes, its scripts and its styles.
-/

namespace LinkSurvey.Markup

open Html (Tree Element NodeId Document)

/-- Elements that refer to other resources, with the attribute that does. -/
def linkAttributes : List (String × String) := [
  ("a", "href"),
  ("link", "href"),
  ("script", "src"),
  ("img", "src"),
  ("iframe", "src")]

/-- The elements of a name that are part of the document, in the order in which they were made. -/
def named (t : Tree) (name : String) : List (NodeId × Element) :=
  t.elements.filter fun (_, e) => e.name == name

/-- The values of all link attributes, by the rows of the table. -/
def links (t : Tree) : List (List Char) :=
  linkAttributes.flatMap fun (name, key) =>
    (named t name).filterMap fun (_, e) => e.attribute? key

inductive Script where
  /-- Code that is to be fetched. -/
  | external (source : List Char)
  /-- Code in the page itself. -/
  | inline (text : List Char)
  deriving DecidableEq, Repr

/-- Where the code of a script element is, if not in the element itself. -/
def source? (e : Element) : Option (List Char) :=
  (e.attribute? "src").filter fun s => !Text.allBlank s

/-- The text of an element, if it is not blank. -/
def solidText? (t : Tree) (i : NodeId) : Option (List Char) :=
  let text := t.textOf i
  if Text.allBlank text then none else some text

/-- Scripts that refer to code or hold some. One that does both is external. -/
def scripts (t : Tree) : List Script :=
  (named t "script").filterMap fun (i, e) =>
    match source? e with
    | some source => some (.external source)
    | none => (solidText? t i).map .inline

/-- The texts of inline scripts. -/
def inlineScripts (t : Tree) : List (List Char) :=
  ((named t "script").filter fun (_, e) => (source? e).isNone).filterMap fun (i, _) => solidText? t i

/-- The texts of style elements. -/
def styles (t : Tree) : List (List Char) :=
  (named t "style").filterMap fun (i, _) => solidText? t i

/-- Candidates in the text of inline scripts and styles. -/
def inlineCandidates (t : Tree) : List (List Char) :=
  (inlineScripts t).flatMap Inline.scriptAddresses ++ (styles t).flatMap Inline.styleReferences

structure Scan where
  tree : Tree
  candidates : List (List Char)
  status : ParseStatus

def scan (markup : List Char) : Scan :=
  let d := Document.parse markup
  ⟨d.tree, links d.tree, .ofErrorCount d.errors⟩

end LinkSurvey.Markup
