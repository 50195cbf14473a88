import LinkSurvey.Script.Parser.Arrow
import LinkSurvey.Script.Parser.Operand

/-!
Expressions, by how tightly their operators bind.
-/

namespace LinkSurvey.Script.Parser

/-- Whether `yield` is an operator here. Where it should be a name it is one all the same if what
follows cannot follow a name. -/
def startsYield : Parse Bool := do
  unless ← atWord "yield" do return false
  if (← context).yields then return true
  let next ← ahead
  return next.followsKeyword && !next.afterLineBreak

/-- Whether what can follow a `yield` without a value comes next. -/
def endsYield (t : Token) : Bool :=
  t.isDone || t.isWord "in"
    || (t.kind == .mark && [";", "\x7d", ")", "]", ":", ","].contains t.text)

def yieldOperation (d : Descent) : Parse Node := do
  take
  faultIf (!(← context).yields) .yieldOutsideGenerator
  if (← token).afterLineBreak then return .yieldOperation none
  let isDelegate ← eatMark "*"
  if endsYield (← token) && !isDelegate then return .yieldOperation none
  modify fun s => { s with context := { s.context with yields := true } }
  return .yieldOperation (some (← d.parse .assignment))

/-- Whether `await` is an operator here. -/
def startsAwait : Parse Bool := do
  unless ← atWord "await" do return false
  let next ← ahead
  if next.isMark "=>" then return false
  if (← context).awaits then return true
  return next.followsKeyword && !next.isWord "of" && !next.afterLineBreak

def awaitOperation (d : Descent) : Parse Node := do
  faultIf (!(← context).awaits) .awaitOutsideAsync
  take
  within (fun c => { c with awaits := true }) do
    return .awaitOperation (← d.parse .unary)

/-- Reads an operator in front of its operand. The value cannot be raised to a power. -/
def prefixOperation (d : Descent) : Parse Node := do
  take
  let operand ← d.parse .unary
  faultIf (← atMark "**") .signedPower
  return .prefixOperation operand

def update (d : Descent) : Parse Node := do
  if (← token).isUpdateOperator then
    take
    let operand ← d.parse .unary
    unless operand.isSimpleTarget do throw .notAssignable
    return .update operand
  let operand ← leftHand d
  let t ← token
  if t.isUpdateOperator && !t.afterLineBreak then
    unless operand.isSimpleTarget do throw .notAssignable
    take
    return .update operand
  return operand

def unary (d : Descent) : Parse Node := do
  let t ← token
  if t.isPrefixOperator then prefixOperation d
  else if t.isMark "<" then d.parse (.element false)
  else if ← startsAwait then awaitOperation d
  else update d

/-- Reads operators that bind tighter than a bound, and their operands. Powers group to the right. -/
def operationsFrom (d : Descent) (floor : Nat) : Nat → Node → Parse Node
  | 0, _ => throw .tooDeep
  | limit + 1, left => do
    if ← atMark ">" then
      let s ← get
      reread (Lexer.angle s.token.afterLineBreak s.rest)
    let t ← token
    match t.precedence? with
    | none => return left
    | some p =>
      if p < floor || (p == floor && !t.isMark "**") then return left
      if t.isWord "in" && !(← context).inOperator then return left
      if t.isWord "as" || t.isWord "satisfies" then
        if t.afterLineBreak then return left
        take
        let type ← d.parse .type
        operationsFrom d floor limit (.typed left type)
      else
        take
        let right ← d.parse (.binary p)
        operationsFrom d floor limit (.binary left right)

/-- Reads operations that bind tighter than a bound. A private name stands only in front of `in`. -/
def binary (d : Descent) (floor : Nat) : Parse Node := do
  let left ←
    if (← context).inOperator && (← token).kind == .privateName then
      let name ← privateName
      expectWord "in"
      pure (.binary name (← unary d))
    else unary d
  operationsFrom d floor d.limit left

def conditional (d : Descent) (condition : Node) : Parse Node := do
  if ← eatMark "?" then
    let first ← withIn (d.parse .assignment)
    expectMark ":"
    return .conditional condition first (← d.parse .assignment)
  else return condition

/-- Reads the value that is assigned to what has been read as an expression. -/
def assignmentTo (d : Descent) (target : Node) : Parse Node := do
  if ← atMark "=" then
    match target.targetFaults with
    | .ok faults => modify fun s => { s with faults := faults ++ s.faults }
    | .error f => throw f
  else unless target.isSimpleTarget do throw .notAssignable
  take
  return .assignment target (← d.parse .assignment)

def assignment (d : Descent) : Parse Node := do
  if ← startsYield then return ← yieldOperation d
  if let some arrow ← parenthesizedArrow? d then return arrow
  if let some arrow ← asyncArrow? d then return arrow
  let left ← binary d 0
  let t ← token
  if left.isName && t.isMark "=>" then arrowAfter d false left
  else if t.isAssignment then assignmentTo d left
  else conditional d left

def expression (d : Descent) : Parse Node := do
  let inDecorator := (← context).inDecorator
  modify fun s => { s with context := { s.context with inDecorator := false } }
  let first ← d.parse .assignment
  let further : Parse (Option Node) := do
    if ← eatMark "," then some <$> d.parse .assignment else return none
  let others ← many further d.limit []
  modify fun s => { s with context := { s.context with inDecorator := inDecorator } }
  return if others.isEmpty then first else .sequence (first :: others)

end LinkSurvey.Script.Parser
