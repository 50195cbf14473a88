import LinkSurvey.Script.Parser.Interchange
import LinkSurvey.Script.Parser.Loop

/-!
Statements. Classes, and functions other than plain ones, are faults where a statement stands alone.
-/

namespace LinkSurvey.Script.Parser

def inParentheses (d : Descent) : Parse Node := do
  expectMark "("
  let inner ← d.parse .expression
  expectMark ")"
  return inner

def governed (d : Descent) : Parse Node :=
  d.parse (.statement .body)

def ifStatement (d : Descent) : Parse Node := do
  take
  let test ← inParentheses d
  let first ← governed d
  let other? ← if ← eatWord "else" then some <$> governed d else pure none
  return .ifStatement test first other?

def doLoop (d : Descent) : Parse Node := do
  take
  let body ← governed d
  expectWord "while"
  let test ← inParentheses d
  let _ ← eatMark ";"
  return .doLoop body test

def whileLoop (d : Descent) : Parse Node := do
  take
  let test ← inParentheses d
  return .whileLoop test (← governed d)

def jump (statement : Option Node → Node) : Parse Node := do
  take
  let label? ← if ← canEnd then pure none else some <$> labelName
  endStatement
  return statement label?

def returnStatement (d : Descent) : Parse Node := do
  take
  let value? ←
    if ← canEnd then
      let _ ← eatMark ";"
      pure none
    else
      let value ← withIn (d.parse .expression)
      endStatement
      pure (some value)
  faultIf (!(← context).returns) .returnOutsideFunction
  return .returnStatement value?

def withStatement (d : Descent) : Parse Node := do
  take
  let object ← inParentheses d
  return .withStatement object (← governed d)

/-- Reads a statement of a case, unless the case ends. -/
def caseStatement? (d : Descent) : Parse (Option Node) := do
  let t ← token
  if t.isWord "case" || t.isWord "default" || t.isMark "\x7d" || t.isDone then return none
  some <$> d.parse (.statement .listed)

def switchCase (d : Descent) : Parse Node := do
  let t ← token
  unless t.isWord "case" || t.isWord "default" do throw .unexpected
  take
  let test? ← if t.isWord "case" then some <$> d.parse .expression else pure none
  expectMark ":"
  let statements ← many (caseStatement? d) d.limit []
  return .switchCase test? statements

def switchStatement (d : Descent) : Parse Node := do
  take
  let value ← inParentheses d
  let cases ← enclosed d "\x7b" "\x7d" (some <$> switchCase d)
  return .switchStatement value cases

def throwStatement (d : Descent) : Parse Node := do
  take
  faultIf (← token).afterLineBreak .lineBreakAfterThrow
  let value ← d.parse .expression
  endStatement
  return .throwStatement value

def catchClause (d : Descent) : Parse Node := do
  take
  let pattern? ←
    if ← eatMark "(" then
      let pattern ← d.parse .pattern
      expectMark ")"
      pure (some pattern)
    else pure none
  return .catchClause pattern? (← block d)

def tryStatement (d : Descent) : Parse Node := do
  take
  let body ← block d
  let handler? ← if ← atWord "catch" then some <$> catchClause d else pure none
  let last? ← if ← eatWord "finally" then some <$> block d else pure none
  faultIf (handler?.isNone && last?.isNone) .missingHandler
  return .tryStatement body handler? last?

def debuggerStatement : Parse Node := do
  take
  endStatement
  return .debugger

def functionStatement (d : Descent) (role : Role) : Parse Node := do
  let definition ← functionDefinition d .declaration
  faultIf (role == .body && definition.isAsyncFunction) .asyncAsBody
  faultIf (role == .body && definition.isGeneratorFunction) .generatorAsBody
  return definition

def classStatement (d : Descent) (role : Role) : Parse Node := do
  let definition ← classDefinition d
  faultIf (role == .body) .classAsBody
  return definition

def variableStatement (d : Descent) (role : Role) : Parse Node := do
  let declaration ← variableList d false
  faultIf (role == .body && declaration.isLexicalList) .lexicalAsBody
  return declaration

/-- Reads a statement that starts with `let`, which may be a name. -/
def letStatement (d : Descent) (role : Role) : Parse Node := do
  let next ← ahead
  if next.isAssignment || next.isBinaryOperator then
    let inner ← d.parse .assignment
    endStatement
    return .expressionStatement inner
  else if next.isMark "." || next.isMark "(" then
    return .expressionStatement (← d.parse .expression)
  else if (role == .body && !next.isMark "[") || next.isMark ";" then
    let name ← bindingName
    endStatement
    return .expressionStatement name
  else variableStatement d role

/-- Reads an expression, or a label if it is a name with a colon after it. -/
def expressionStatement (d : Descent) : Parse Node := do
  let inner ← d.parse .expression
  if inner.isName && (← eatMark ":") then
    return .labelled inner (← governed d)
  else
    endStatement
    return .expressionStatement inner

/-- Whether variables that are disposed of are declared here. -/
def atUsing : Parse Bool := do
  let t ← token
  if t.isWord "using" then return (← ahead).isPlainName
  unless t.isWord "await" do return false
  return (← ahead).isWord "using" && (← aheadBy 1).isPlainName

def usingStatement (d : Descent) : Parse Node := do
  let declaration ← usingVariables d false
  endStatement
  return declaration

/-- Reads a statement that starts with a word. -/
def wordStatement (d : Descent) (role : Role) (t : Token) : Parse Node := do
  match t.text with
  | "if" => ifStatement d
  | "do" => doLoop d
  | "while" => whileLoop d
  | "for" => forLoop d
  | "continue" => jump .continueStatement
  | "break" => jump .breakStatement
  | "with" => withStatement d
  | "switch" => switchStatement d
  | "throw" => throwStatement d
  | "try" => tryStatement d
  | "debugger" => debuggerStatement
  | "class" => classStatement d role
  | "export" => exportDeclaration d
  | "return" => returnStatement d
  | "var" | "const" => variableStatement d role
  | "import" =>
    let next ← ahead
    if next.isMark "." || next.isMark "(" then expressionStatement d else importDeclaration d
  | "let" => if t.escaped then expressionStatement d else letStatement d role
  | _ =>
    if ← atFunction then functionStatement d role
    else if ← atUsing then usingStatement d
    else expressionStatement d

def statement (d : Descent) (role : Role) : Parse Node := do
  keepDecorators d
  let t ← token
  if t.kind == .word then wordStatement d role t
  else if t.isMark "\x7b" then block d
  else if t.isMark ";" then
    take
    return .emptyStatement
  else expressionStatement d

end LinkSurvey.Script.Parser
