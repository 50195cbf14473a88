import LinkSurvey.Script.Parser.Binding

/-!
Functions: parameters and bodies. Within a function `await` and `yield` mean what its kind says, and
a value may be returned.
-/

namespace LinkSurvey.Script.Parser

/-- Reads statements between braces. -/
def statements (d : Descent) : Parse (List Node) :=
  enclosed d "\x7b" "\x7d" (some <$> d.parse (.statement .listed))

def block (d : Descent) : Parse Node :=
  return .block (← statements d)

def functionBody (d : Descent) : Parse Node :=
  within (fun c => { c with returns := true }) do
    let (directives, statements) := Node.splitDirectives (← statements d)
    return .body directives statements

/-- Whether the word at hand modifies what comes after it. A word other than `static` does so only
on the same line. -/
def atModifier (afterStatic : Bool) : Parse Bool := do
  let t ← token
  unless t.kind == .word && modifierWords.contains t.text do return false
  let next ← ahead
  if t.text == "static" then return !afterStatic && !next.isMark "\x7b" && next.followsModifier
  else return next.followsModifier && !next.afterLineBreak

/-- Skips modifiers and tells whether `static` is among them. -/
def modifiersFrom : Nat → Bool → Parse Bool
  | 0, _ => throw .tooDeep
  | limit + 1, isStatic => do
    if ← atModifier isStatic then
      let t ← token
      take
      modifiersFrom limit (isStatic || t.text == "static")
    else return isStatic

def parameter (d : Descent) : Parse Node := do
  keepDecorators d
  let _ ← modifiersFrom d.limit false
  let pattern ← patternWithDefault d
  return .parameter (← keptDecorators) pattern

def parameters (d : Descent) : Parse Node := do
  expectMark "("
  let (items, rest?) ← withRest d ")" (parameter d)
  expectMark ")"
  return .parameters items rest?

/-- Reads a function from its parameters on. -/
def functionFrom (d : Descent) (isAsync isGenerator : Bool) (name? : Option Node) : Parse Node :=
  within (fun c => { c with inOperator := true, awaits := isAsync, yields := isGenerator }) do
    let parameters ← parameters d
    unless ← atMark "\x7b" do throw .unexpected
    let body ← functionBody d
    return .function isAsync isGenerator name? parameters body

inductive FunctionKind where
  | declaration
  | exported
  | expression
  deriving DecidableEq, Repr

/-- Reads the name of a function. In an expression it belongs to the function itself. -/
def functionName (kind : FunctionKind) (isAsync isGenerator : Bool) : Parse (Option Node) := do
  let t ← token
  if t.isBindingName then
    if kind == .expression then
      within (fun c => { c with awaits := isAsync, yields := isGenerator }) (some <$> bindingName)
    else some <$> bindingName
  else
    if kind == .declaration then
      faultIf (t.isMark "(") .missingName
      if t.isReserved then throw .missingName
    return none

/-- Reads a function from the word `function` or the word `async` on. -/
def functionDefinition (d : Descent) (kind : FunctionKind) : Parse Node := do
  let isAsync ← eatWord "async"
  expectWord "function"
  let isGenerator ← eatMark "*"
  let name? ← functionName kind isAsync isGenerator
  functionFrom d isAsync isGenerator name?

/-- Whether a function comes next, possibly an asynchronous one. -/
def atFunction : Parse Bool := do
  let t ← token
  if t.isWord "function" then return true
  unless t.isWord "async" do return false
  let next ← ahead
  return next.isWord "function" && !next.afterLineBreak

end LinkSurvey.Script.Parser
