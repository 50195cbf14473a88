import LinkSurvey.Script.Parser.ClassDefinition
import LinkSurvey.Script.Parser.Object

/-!
Operands: literals, names, bracketed and defined things, and what follows them directly. A chain
with `?.` is closed off as a whole, since nothing can be assigned to it.
-/

namespace LinkSurvey.Script.Parser

/-- Reads on in a template: chunks, and expressions in the holes between them. A hole goes on until
its brace. -/
def templateFrom (d : Descent) (isTagged : Bool) : Nat → List Quasi → List Node → Parse Node
  | 0, _, _ => throw .tooDeep
  | limit + 1, quasis, holes => do
    let t ← token
    match t.kind with
    | .chunk false last =>
      takeName
      faultIf (!isTagged && t.quasi != .cooked t.quasi.text) .malformedEscape
      if last then return .template (t.quasi :: quasis).reverse holes.reverse
      templateFrom d isTagged limit (t.quasi :: quasis) holes
    | .done => throw .unterminatedTemplate
    | _ =>
      let inner ← withIn (d.parse .expression)
      if ← atMark "\x7d" then
        let s ← get
        reread (Lexer.chunk false false s.rest)
      templateFrom d isTagged limit quasis (inner :: holes)

/-- Reads a template from its first chunk on. -/
def template (d : Descent) (isTagged : Bool) : Parse Node := do
  let t ← token
  takeName
  faultIf (!isTagged && t.quasi != .cooked t.quasi.text) .malformedEscape
  if t.kind == .chunk true true then return .template [t.quasi] []
  templateFrom d isTagged d.limit [t.quasi] []

def argument (d : Descent) : Parse Node := do
  if ← atMark "..." then spread d else d.parse .assignment

def arguments (d : Descent) : Parse (List Node) := do
  expectMark "("
  let arguments ← within (fun c => { c with inOperator := true, inDecorator := false })
    (list d ")" (argument d))
  expectMark ")"
  return arguments

/-! ### Operands proper -/

def regex : Parse Node := do
  let t ← token
  let s ← get
  match Lexer.regex? t.afterLineBreak (if t.isMark "/=" then '=' :: s.rest else s.rest) with
  | some l =>
    reread l
    takeName
    return .regex
  | none => throw .unterminatedRegex

def parenthesized (d : Descent) : Parse Node := do
  take
  let (items, _) ← within (fun c => { c with inOperator := true, inDecorator := false })
    (listFrom ")" false (d.parse .assignment) d.limit [])
  expectMark ")"
  match items with
  | [] => throw .emptyParentheses
  | [item] => return .parenthesized item
  | _ => return .parenthesized (.sequence items)

/-- Only members and calls go through `super`. -/
def superReference : Parse Node := do
  take
  let t ← token
  faultIf (!(t.isMark "." || t.isMark "(" || t.isMark "[")) .misplacedSuper
  return .super

def metaProperty : Parse Node := do
  take
  let t ← token
  if t.isWord "meta" || t.isWord "target" then take
  else
    let _ ← anyWord
  return .metaProperty

/-- Reads what follows `import` in an expression. -/
def importExpression (d : Descent) : Parse Node := do
  take
  if ← atMark "." then metaProperty
  else
    expectMark "("
    let call ← withIn do
      let source ← d.parse .assignment
      if (← eatMark ",") && !(← atMark ")") then return .importCall source (some (← d.parse .assignment))
      else return .importCall source none
    let _ ← eatMark ","
    expectMark ")"
    return call

def newExpression (d : Descent) : Parse Node := do
  take
  if ← atMark "." then metaProperty
  else
    let callee ← d.parse .callee
    let arguments ← if ← atMark "(" then arguments d else pure []
    faultIf callee.isImportCall .importInNew
    faultIf callee.isChain .chainInNew
    return .new callee arguments

/-- Reads an operand without what follows it. -/
def primary (d : Descent) : Parse Node := do
  keepDecorators d
  if ← atFunction then return ← functionDefinition d .expression
  let t ← token
  if t.isLiteral then literal
  else
    match t.kind with
    | .chunk true _ => template d false
    | .word =>
      match t.text with
      | "this" =>
        take
        return .this
      | "class" => classDefinition d
      | "new" => newExpression d
      | "super" => superReference
      | "import" => importExpression d
      | _ => bindingName
    | .mark =>
      match t.text with
      | "[" => array d
      | "\x7b" => object d
      | "(" => parenthesized d
      | "/" | "/=" => regex
      | _ => throw .unexpected
    | _ => throw .unexpected

/-! ### What follows an operand -/

def memberByName (object : Node) : Parse Node := do
  take
  if (← token).kind == .privateName then return .member object (← privateName)
  return .member object (← anyWord)

def memberByValue (d : Descent) (object : Node) : Parse Node := do
  take
  let key ← withIn (d.parse .expression)
  expectMark "]"
  return .member object key

def taggedTemplate (d : Descent) (tag : Node) : Parse Node := do
  return .tagged tag (← template d true)

/-- Reads members and templates after an operand, and tells whether one of them is optional. -/
def membersFrom (d : Descent) : Nat → Node → Bool → Parse (Node × Bool)
  | 0, _, _ => throw .tooDeep
  | limit + 1, operand, inChain => do
    let t ← token
    if t.isTemplate then membersFrom d limit (← taggedTemplate d operand) inChain
    else if t.isMark "." then membersFrom d limit (← memberByName operand) inChain
    else if t.isMark "[" && !(← context).inDecorator then
      membersFrom d limit (← memberByValue d operand) inChain
    else if t.isMark "?." then
      let next ← ahead
      if next.kind == .word || next.kind == .privateName then
        membersFrom d limit (← memberByName operand) true
      else if next.isMark "[" && !(← context).inDecorator then
        take
        membersFrom d limit (← memberByValue d operand) true
      else if next.isTemplate then
        take
        fault .templateInChain
        membersFrom d limit operand true
      else return (operand, true)
    else return (operand, inChain)

/-- Reads members and calls after an operand. A `?.` that nothing follows is passed over. -/
def callsFrom (d : Descent) : Nat → Node → Bool → Parse (Node × Bool)
  | 0, _, _ => throw .tooDeep
  | limit + 1, operand, inChain => do
    let (operand, inChain) ← membersFrom d d.limit operand inChain
    let isOptional ← eatMark "?."
    if ← atMark "(" then
      let arguments ← arguments d
      callsFrom d limit (.call operand arguments) (inChain || isOptional)
    else return (operand, inChain || isOptional)

def closedChain : Node × Bool → Node
  | (operand, true) => .chain operand
  | (operand, false) => operand

def leftHand (d : Descent) : Parse Node := do
  let operand ← primary d
  let (operand, inChain) ← membersFrom d d.limit operand false
  closedChain <$> callsFrom d d.limit operand inChain

def callee (d : Descent) : Parse Node := do
  closedChain <$> membersFrom d d.limit (← primary d) false

end LinkSurvey.Script.Parser
