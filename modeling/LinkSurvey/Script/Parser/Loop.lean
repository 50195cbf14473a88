import LinkSurvey.Script.Parser.Declaration

/-!
Loops with `for`: over the keys of an object, over items, or with three clauses.
-/

namespace LinkSurvey.Script.Parser

def loopBody (d : Descent) : Parse Node :=
  d.parse (.statement .body)

/-- Reads the clauses after the first one. -/
def loopClauses (d : Descent) (isAwait : Bool) (initial? : Option Node) : Parse Node := do
  expectMark ";"
  let t ← token
  let test? ← if t.isMark ";" || t.isMark ")" then pure none else some <$> withIn (d.parse .expression)
  expectMark ";"
  let step? ← if ← atMark ")" then pure none else some <$> withIn (d.parse .expression)
  expectMark ")"
  faultIf isAwait .misplacedForAwait
  let body ← loopBody d
  return .forLoop initial? test? step? body

/-- Reads what a loop goes over. -/
def loopOver (d : Descent) (isAwait : Bool) (target : Node) : Parse Node := do
  let overKeys ← atWord "in"
  take
  let source ← if overKeys then d.parse .expression else d.parse .assignment
  expectMark ")"
  faultIf (isAwait && overKeys) .misplacedForAwait
  let body ← loopBody d
  return if overKeys then .forIn target source body else .forOf target source body

/-- Whether what the variable of a loop takes its values from comes next. -/
def atSource : Parse Bool := do
  let t ← token
  return t.isWord "in" || t.isWord "of"

def loopWithVariables (d : Descent) (isAwait : Bool) : Parse Node := do
  let declaration ← within (fun c => { c with inOperator := false }) (variableList d true)
  if ← atSource then loopOver d isAwait declaration else loopClauses d isAwait (some declaration)

def loopWithUsing (d : Descent) (isAwait : Bool) : Parse Node := do
  let declaration ← usingVariables d true
  faultIf (← atWord "in") .usingInForIn
  if ← atSource then loopOver d isAwait declaration else loopClauses d isAwait (some declaration)

/-- Reads a loop whose first clause is an expression, which may be what the values are assigned to. -/
def loopWithExpression (d : Descent) (isAwait : Bool) : Parse Node := do
  let t ← token
  let startsAsyncOf := t.isWord "async" && !t.escaped && (← ahead).isWord "of"
  let first ← within (fun c => { c with inOperator := false }) (d.parse .expression)
  if ← atSource then
    match first.targetFaults with
    | .ok faults => modify fun s => { s with faults := faults ++ s.faults }
    | .error f => throw f
    faultIf (!isAwait && startsAsyncOf) .asyncInForOf
    loopOver d isAwait first
  else loopClauses d isAwait (some first)

/-- Whether `let` declares something, judged by the token after it. -/
def followsLet (t : Token) : Bool :=
  !t.isWord "in" && (t.isMark "\x7b" || t.isMark "[" || t.kind == .word)

def forLoop (d : Descent) : Parse Node := do
  take
  let isAwait ← if (← context).awaits then eatWord "await" else pure false
  expectMark "("
  let t ← token
  let next ← ahead
  if t.isMark ";" || t.isMark ")" then loopClauses d isAwait none
  else if t.isWord "var" || t.isWord "const" || (t.isWord "let" && followsLet next) then
    loopWithVariables d isAwait
  else if (t.isWord "await" && next.isWord "using") || (t.isWord "using" && next.isPlainName) then
    loopWithUsing d isAwait
  else loopWithExpression d isAwait

end LinkSurvey.Script.Parser
