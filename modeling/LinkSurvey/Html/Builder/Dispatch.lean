import LinkSurvey.Html.Builder.Table

/-!
One token at a time into the tree: drawings and formulas have rules of their own, everything else goes
by the mode. A token is looked at until some mode is done with it.
-/

namespace LinkSurvey.Html.Build

/-- Start tags that end a drawing or formula. -/
def breakoutNames : List String := [
  "b", "big", "blockquote", "body", "br", "center", "code", "dd", "div", "dl", "dt", "em",
  "embed", "h1", "h2", "h3", "h4", "h5", "h6", "head", "hr", "i", "img", "li", "listing", "menu",
  "meta", "nobr", "ol", "p", "pre", "ruby", "s", "small", "span", "strong", "strike", "sub",
  "sup", "table", "tt", "u", "ul", "var"]

/-- The rule that a mode has for a token. -/
def inMode (mode : Mode) (t : Token) : Build Outcome :=
  match mode with
  | .initial => initial t
  | .beforeHtml => beforeHtml t
  | .beforeHead => beforeHead t
  | .inHead => inHead t
  | .afterHead => afterHead t
  | .inBody => inBody t
  | .text => inText t
  | .inTable => inTable t
  | .inTableText => inTableText t
  | .inCaption => inCaption t
  | .inColumnGroup => inColumnGroup t
  | .inTableBody => inTableBody t
  | .inRow => inRow t
  | .inCell => inCell t
  | .inSelect => inSelect t
  | .inSelectInTable => inSelectInTable t
  | .inTemplate => inTemplate t
  | .afterBody => afterBody t
  | .inFrameset => inFrameset t
  | .afterFrameset => afterFrameset t
  | .afterAfterBody => afterAfterBody t
  | .afterAfterFrameset => afterAfterFrameset t

/-- Whether the current element is none of HTML, so that sections of literal text are known. -/
def currentIsForeign (b : Builder) : Bool :=
  match b.opened.head? with
  | some i => (b.tree.element? i).any (·.space != .html)
  | none => false

/-- Whether a token belongs to the drawing or formula around it. -/
def isForeign (b : Builder) (t : Token) : Bool :=
  match b.opened.head?.bind b.tree.element? with
  | none => false
  | some e =>
    e.space != .html && match t with
      | .eof => false
      | .text _ _ | .null => !(mathText e || svgContent e)
      | .start tag =>
        !(mathText e && !(["mglyph", "malignmark"].contains tag.name)) && !svgContent e
          && !(e.space = .math && e.name == "annotation-xml" && tag.name == "svg")
      | _ => true

/-- Leave the drawing or formula, and treat the token as in the mode outside of it. -/
def breakOut (t : Token) : Build Outcome := do
  fail
  closeWhile fun e => !(e.space = .html || mathText e || svgContent e)
  inMode (← get).mode t

def startForeign (tag : Tag) : Build Outcome := do
  let b ← get
  let space := ((b.opened.head?.bind b.tree.element?).map (·.space)).getD .html
  enterForeign space tag

/-- An end tag closes the innermost element that it names, in any letter case, up to the first element
of HTML; there the mode decides. -/
def stopForeign (tag : Tag) (first : Bool) : List NodeId → Build Outcome
  | [] | [_] => return .done
  | i :: outer => do
    let b ← get
    match b.tree.element? i with
    | some e =>
      if !first && e.space = .html then inMode b.mode (.stop tag)
      else if e.name == tag.name then
        modify fun b => { b with opened := (b.opened.dropWhile (· != i)).drop 1 }
        return .done
      else
        if first then fail
        stopForeign tag false outer
    | none => stopForeign tag false outer

def foreignContent (t : Token) : Build Outcome := do
  match t with
  | .null =>
    fail
    appendText ['\uFFFD']
  | .text _ text =>
    unless allSpace text do spoilFrameset
    appendText text
  | .comment => appendComment
  | .start tag =>
    if breakoutNames.contains tag.name
      || (tag.name == "font" && ["color", "face", "size"].any fun a => (tag.attribute? a).isSome)
    then breakOut t
    else startForeign tag
  | .stop tag =>
    if tag.name == "br" || tag.name == "p" then breakOut t
    else stopForeign tag true (← get).opened
  | _ => return .done

def look (t : Token) : Build Outcome := do
  let b ← get
  if isForeign b t then foreignContent t else inMode b.mode t

def isSelfClosing : Token → Bool
  | .start tag => tag.selfClosing
  | _ => false

/-- Look at tokens until all are done with. What a tag says about the text after it is the result. -/
def finish (fuel : Nat) (queue : List Token) : Build (Option Outcome) := do
  match fuel, queue with
  | fuel + 1, t :: rest =>
    match ← look t with
    | .done =>
      if isSelfClosing t then fail
      finish fuel rest
    | .closed => finish fuel rest
    | .again mode t =>
      setMode mode
      finish fuel (t :: rest)
    | .split text =>
      match splitRun text with
      | none => finish fuel rest
      | some (run, after) =>
        finish fuel (run :: (if after.isEmpty then rest else .text .unsplit after :: rest))
    | outcome => return some outcome
  | _, _ => return none

/-- Every token is looked at a bounded number of times, and once more for each template that the end
of the input closes. -/
def patience (b : Builder) (t : Token) : Nat :=
  let size := match t with
    | .text _ text => text.length
    | _ => 1
  16 * (size + b.templateModes.length + 2)

/-- Take in a token. -/
def take (t : Token) : Build (Option Outcome) := do
  let b ← get
  set { b with skipLineFeed := false }
  match t with
  | .doctype d =>
    doctype d
    return none
  | .text blankness text =>
    let text := if b.skipLineFeed && text.head? == some '\n' then text.drop 1 else text
    if text.isEmpty then return none
    let t := .text blankness text
    finish (patience b t) [t]
  | t => finish (patience b t) [t]

end LinkSurvey.Html.Build
