import LinkSurvey.Script.Parser.Declaration

/-!
Imports and exports. What is imported or exported may have a string as its name elsewhere, but not
within the module itself.
-/

namespace LinkSurvey.Script.Parser

/-- Whether a text holds the escape of a surrogate. -/
def holdsSurrogate : List Char → Bool
  | [] => false
  | '\\' :: 'u' :: cs =>
    match fixedHex 4 0 (cs.take 4) with
    | (some n, _) => (0xD800 ≤ n && n ≤ 0xDFFF) || holdsSurrogate cs
    | _ => holdsSurrogate cs
  | _ :: cs => holdsSurrogate cs

/-- Reads the name that something has between modules. -/
def exchangedName : Parse Node := do
  let t ← token
  if t.kind == .string then
    let name ← stringLiteral
    faultIf (holdsSurrogate t.text.toList) .unpairedSurrogate
    return .string name
  else anyWord

/-! ### Attributes -/

def attributeEntry : Parse Node := do
  let t ← token
  let key ← if t.kind == .string then .string <$> stringLiteral else anyWord
  expectMark ":"
  return .attributeEntry key (← stringLiteral)

def attributeKey : Node → String
  | .attributeEntry (.name text) _ | .attributeEntry (.string ⟨text⟩) _ => text
  | _ => ""

/-- How many texts of a list occur in it before. -/
def repeats : List String → Nat
  | [] => 0
  | text :: rest => (if rest.contains text then 1 else 0) + repeats rest

/-- Reads the attributes of an import, if there are any. -/
def attributes (d : Descent) : Parse (List Node) := do
  let t ← token
  unless t.isWord "with" || (t.isWord "assert" && !t.afterLineBreak) do return []
  takeName
  expectMark "\x7b"
  let entries ← within (fun _ => { inOperator := false }) (list d "\x7d" attributeEntry)
  expectMark "\x7d"
  let repeated := List.replicate (repeats (entries.map attributeKey)) Fault.repeatedAttribute
  modify fun s => { s with faults := repeated ++ s.faults }
  return entries

/-! ### Imports -/

def importSpecifier : Parse Node := do
  if (← ahead).isWord "as" then
    let name ← exchangedName
    take
    return .importSpecifier (some name) (← bindingName)
  else return .importSpecifier none (← bindingName)

def importSpecifiers (d : Descent) : Parse (List Node) := do
  take
  let specifiers ← within (fun _ => { inOperator := false }) (list d "\x7d" importSpecifier)
  expectMark "\x7d"
  return specifiers

def importNamespace : Parse Node := do
  take
  expectWord "as"
  return .importSpecifier none (← bindingName)

/-- Reads what is imported under names of its own. -/
def importNames (d : Descent) : Parse (List Node) := do
  let t ← token
  if t.isMark "*" then return [← importNamespace]
  if t.isMark "\x7b" then importSpecifiers d else return []

def importClause (d : Descent) : Parse (List Node) := do
  let t ← token
  let names ←
    if t.isBindingName then
      let main ← bindingName
      if ← eatMark "," then
        let t ← token
        unless t.isMark "*" || t.isMark "\x7b" do throw .unexpected
        pure (.importSpecifier none main :: (← importNames d))
      else pure [.importSpecifier none main]
    else importNames d
  expectWord "from"
  return names

def importDeclaration (d : Descent) : Parse Node := do
  take
  let names ← if (← token).kind == .string then pure [] else importClause d
  let source ← stringLiteral
  let attributes ← attributes d
  endStatement
  return .importDeclaration names source attributes

/-! ### Exports -/

def exportSpecifier : Parse Node := do
  let name ← exchangedName
  if ← eatWord "as" then return .exportSpecifier name (← exchangedName)
  else return .exportSpecifier name name

/-- What a module exports of itself has a name in it that no word of the language takes. -/
def checkLocal : Node → Parse Unit
  | .exportSpecifier (.string _) _ => fault .stringAsLocal
  | .exportSpecifier (.name text) _ =>
    faultIf (reservedWords.contains text || strictWords.contains text) .reservedAsLocal
  | _ => pure ()

def exportSpecifiers (d : Descent) : Parse Node := do
  take
  let specifiers ← within (fun _ => { inOperator := false }) (list d "\x7d" exportSpecifier)
  expectMark "\x7d"
  if (← eatWord "from") && (← token).isLiteral then
    let source ← stringLiteral
    let attributes ← attributes d
    endStatement
    return .exportNames specifiers (some source) attributes
  else
    specifiers.forM checkLocal
    endStatement
    return .exportNames specifiers none []

def exportAll (d : Descent) : Parse Node := do
  take
  let name? ← if ← eatWord "as" then some <$> exchangedName else pure none
  expectWord "from"
  let source ← stringLiteral
  let attributes ← attributes d
  endStatement
  return .exportAll name? source attributes

def exportDefault (d : Descent) : Parse Node := do
  take
  keepDecorators d
  if ← atWord "class" then return .exportDeclaration (← classDefinition d)
  if ← atFunction then return .exportDeclaration (← functionDefinition d .exported)
  let value ← d.parse .assignment
  endStatement
  return .exportDeclaration value

def exportDeclared (d : Descent) : Parse Node := do
  keepDecorators d
  let t ← token
  if t.isWord "class" then return .exportDeclaration (← classDefinition d)
  if t.kind == .word && declarationWords.contains t.text then
    return .exportDeclaration (← variableList d false)
  if ← atFunction then return .exportDeclaration (← functionDefinition d .declaration)
  throw .unexpected

def exportDeclaration (d : Descent) : Parse Node := do
  take
  let t ← token
  if t.isWord "default" then exportDefault d
  else if t.isMark "*" then exportAll d
  else if t.isMark "\x7b" then exportSpecifiers d
  else exportDeclared d

end LinkSurvey.Script.Parser
