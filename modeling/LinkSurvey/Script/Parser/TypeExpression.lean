import LinkSurvey.Script.Parser.Name

/-!
Types, which a script may give for a value after `as` or `satisfies`, and for what a class extends.
They mean nothing here, but the strings in them count like others.
-/

namespace LinkSurvey.Script.Parser

def typeOperators : List String := ["keyof", "unique", "readonly", "infer"]

/-- Reads a name with dots and, after it, the types that it is applied to. -/
def typeReference (d : Descent) : Parse Node := do
  let path ← wordPath d.limit
  if (← token).afterLineBreak then return .typeReference path []
  if ← eatMark "<" then
    let types ← list d ">" (d.parse .type)
    expectMark ">"
    return .typeReference path types
  return .typeReference path []

/-- Reads a member of an object type, unless the type ends. -/
def typeMember (d : Descent) : Parse (Option Node) := do
  let (key, _) ← propertyKey d
  let _ ← eatMark "?"
  let type? ← if ← eatMark ":" then some <$> d.parse .type else pure none
  unless ← eatMark "," do endStatement
  return some (.typeMember key type?)

/-- Reads a type without operators between types. -/
def typeOperand (d : Descent) : Parse Node := do
  let t ← token
  match t.kind with
  | .string | .number => literal
  | .chunk true true =>
    take
    return .template [t.quasi] []
  | .word =>
    if typeOperators.contains t.text && (← ahead).kind == .word then
      take
      return .typeOperation (← d.parse .type)
    if t.isWord "typeof" then
      take
      return .typeOperation (← typeReference d)
    if t.isWord "import" || t.isWord "new" then throw .unexpected
    typeReference d
  | .mark =>
    if t.text == "-" then
      take
      unless (← token).kind == .number do throw .unexpected
      literal
    else if t.text == "(" then
      take
      let inner ← d.parse .type
      expectMark ")"
      return .parenthesized inner
    else if t.text == "[" then
      take
      let parts ← list d "]" (d.parse .type)
      expectMark "]"
      return .tupleType parts
    else if t.text == "\x7b" then
      return .objectType (← enclosed d "\x7b" "\x7d" (typeMember d))
    else throw .unexpected
  | _ => throw .unexpected

/-- Reads brackets after a type, and the index in them if there is one. -/
def typeBrackets (d : Descent) : Parse (Option (Option Node)) := do
  let t ← token
  unless t.isMark "[" && !t.afterLineBreak do return none
  take
  if ← eatMark "]" then return some none
  let index ← d.parse .type
  expectMark "]"
  return some (some index)

/-- Brackets make a type one of arrays, or of what stands at the index. -/
def withBrackets (operand : Node) : Option Node → Node
  | none => .arrayType operand
  | some index => .indexedType operand index

def bracketedType (d : Descent) : Parse Node := do
  let operand ← typeOperand d
  return (← many (typeBrackets d) d.limit []).foldl withBrackets operand

/-- Reads types joined by marks. -/
def typeExpression (d : Descent) : Parse Node := do
  let _ ← eatMark "|"
  let _ ← eatMark "&"
  let first ← bracketedType d
  let further : Parse (Option Node) := do
    if (← eatMark "|") || (← eatMark "&") then some <$> bracketedType d else return none
  return .joinedType (first :: (← many further d.limit []))

end LinkSurvey.Script.Parser
