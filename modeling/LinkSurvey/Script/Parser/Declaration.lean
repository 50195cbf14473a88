import LinkSurvey.Script.Parser.ClassDefinition

/-!
Declarations of variables. At the head of a loop a variable needs no value, since the loop may give
it one.
-/

namespace LinkSurvey.Script.Parser

def declarationWords : List String := ["var", "let", "const"]

/-- A variable without a value: constants and patterns need one. -/
def checkInitializer (word : String) (pattern : Node) : Parse Unit :=
  match pattern with
  | .name _ => faultIf (word == "const") .missingInitializer
  | _ => fault .missingInitializer

def declarator (d : Descent) (word : String) (inLoop : Bool) : Parse Node := do
  let pattern ← d.parse .pattern
  if ← eatMark "=" then return .declarator pattern (some (← d.parse .assignment))
  unless inLoop do checkInitializer word pattern
  return .declarator pattern none

/-- Reads variables from their word on, up to where the statement ends. -/
def variableList (d : Descent) (inLoop : Bool) : Parse Node := do
  let t ← token
  unless t.kind == .word && declarationWords.contains t.text do throw .unexpected
  take
  let first ← declarator d t.text inLoop
  let others ← afterCommas d (declarator d t.text inLoop)
  unless inLoop do endStatement
  return .variableList (t.text != "var") (first :: others)

/-- Variables that are disposed of have names and values. -/
def usingDeclarator (d : Descent) (inLoop : Bool) : Parse Node := do
  let pattern ← d.parse .pattern
  let value? ← if ← eatMark "=" then some <$> d.parse .assignment else pure none
  faultIf (!pattern.isName) .patternInUsing
  faultIf (value?.isNone && !inLoop) .missingInitializer
  return .declarator pattern value?

def usingVariables (d : Descent) (inLoop : Bool) : Parse Node := do
  let _ ← eatWord "await"
  expectWord "using"
  faultIf (← token).afterLineBreak .lineBreakInUsing
  let first ← usingDeclarator d inLoop
  let others ← afterCommas d (usingDeclarator d inLoop)
  return .using (first :: others)

end LinkSurvey.Script.Parser
