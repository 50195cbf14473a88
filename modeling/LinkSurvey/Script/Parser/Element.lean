import LinkSurvey.Script.Parser.Name

/-!
Markup in scripts. An element that is nested in another one is followed by text of that one, so its
last mark is left towards text and not towards a token.
-/

namespace LinkSurvey.Script.Parser

/-- The name of an element. -/
inductive TagName where
  | plain (text : String)
  | spaced (space text : String)
  | path (names : List String)
  deriving DecidableEq, Repr

def TagName.node : TagName → Node
  | .plain text => .name text
  | .spaced space text => .spacedName space text
  | .path names => .namePath names

/-- Reads a name between tags, which may hold hyphens. -/
def hyphenatedName : Parse String := do
  let t ← token
  unless t.kind == .word do throw .unexpected
  let s ← get
  let (more, rest) := Lexer.hyphenated s.rest
  set { s with rest := rest }
  takeName
  return t.text ++ String.ofList more

def namePathFrom : Nat → List String → Parse TagName
  | 0, _ => throw .tooDeep
  | limit + 1, names => do
    if ← eatMark "." then namePathFrom limit ((← hyphenatedName) :: names)
    else return .path names.reverse

def tagName (d : Descent) : Parse TagName := do
  let first ← hyphenatedName
  if ← eatMark ":" then return .spaced first (← hyphenatedName)
  if ← atMark "." then namePathFrom d.limit [first]
  else return .plain first

/-- Expects the mark that ends a tag or a hole. -/
def expectLast (nested : Bool) (spelling : String) : Parse Unit :=
  if nested then expectMarkIntoMarkup spelling else expectMark spelling

/-- Reads the expression in a hole, which is no sequence. -/
def holeExpression (d : Descent) : Parse Node :=
  within (fun c => { awaits := c.awaits }) do
    let inner ← d.parse .expression
    if inner.isSequence then throw .sequenceInMarkup
    return inner

/-- Reads a hole from behind its brace. -/
def container (d : Descent) (inText : Bool) : Parse Node := do
  let inner? ← if ← atMark "\x7d" then pure none else some <$> holeExpression d
  expectLast inText "\x7d"
  return .container inner?

def attributeValue (d : Descent) : Parse Node := do
  let t ← token
  if t.kind == .string then .string <$> stringLiteral
  else if t.isMark "\x7b" then
    take
    container d false
  else if t.isMark "<" then d.parse (.element false)
  else throw .unexpected

def namedAttribute (d : Descent) : Parse Node := do
  let first ← hyphenatedName
  let name ← if ← eatMark ":" then TagName.spaced first <$> hyphenatedName else pure (.plain first)
  if ← atMark "=" then
    let s ← get
    shift (Lexer.attributeValue s.dialect s.rest)
    return .markupAttribute name.node (some (← attributeValue d))
  else return .markupAttribute name.node none

/-- Reads an attribute, unless the tag ends. -/
def attribute? (d : Descent) : Parse (Option Node) := do
  let t ← token
  if t.isDone || t.isMark "<" || t.isMark ">" || t.isMark "/" then return none
  if t.isMark "\x7b" then
    take
    expectMark "..."
    let inner ← holeExpression d
    expectMark "\x7d"
    return some (.markupSpread inner)
  some <$> namedAttribute d

/-- Reads what stands in an element, unless the element ends. -/
def child? (d : Descent) : Parse (Option Node) := do
  let t ← token
  match t.kind with
  | .done => return none
  | .markupText =>
    take
    return some .markupText
  | _ =>
    if t.isMark "<" then
      let next ← ahead
      if next.isMark "/" then return none
      if next.isMark ">" || next.kind == .word then return some (← d.parse (.element true))
      throw .unexpected
    else if t.isMark "\x7b" then
      take
      if ← eatMark "..." then
        let inner ← holeExpression d
        expectMarkIntoMarkup "\x7d"
        return some (.markupSpread inner)
      return some (← container d true)
    else throw .unexpected

def fragment (d : Descent) (nested : Bool) : Parse Node := do
  expectMark "<"
  expectMarkIntoMarkup ">"
  let children ← many (child? d) d.limit []
  expectMark "<"
  expectMark "/"
  expectLast nested ">"
  return .fragment children

/-- Reads an element or a fragment. -/
def element (d : Descent) (nested : Bool) : Parse Node := do
  if (← ahead).isMark ">" then return ← fragment d nested
  expectMark "<"
  let name ← tagName d
  let attributes ← many (attribute? d) d.limit []
  let opening := .opening name.node attributes
  if ← eatMark "/" then
    expectLast nested ">"
    return .element opening []
  expectMarkIntoMarkup ">"
  let children ← many (child? d) d.limit []
  expectMark "<"
  expectMark "/"
  let closing ← tagName d
  expectLast nested ">"
  faultIf (closing != name) .unmatchedTag
  return .element opening children

end LinkSurvey.Script.Parser
