import LinkSurvey.Script.Parser.State

/-!
Names and literals. Whether `await` and `yield` are names depends on the function around them; where
they are none they are still read as one, with a fault.
-/

namespace LinkSurvey.Script.Parser

def checkName (text : String) : Parse Unit := do
  let c ← context
  faultIf (c.awaits && text == "await") .awaitAsName
  faultIf (c.yields && text == "yield") .yieldAsName

/-- Reads a word that names something. -/
def bindingName : Parse Node := do
  let t ← token
  unless t.isBindingName do throw .unexpected
  takeName
  checkName t.text
  return .name t.text

/-- Reads the name of a label that is referred to. -/
def labelName : Parse Node := do
  let t ← token
  let c ← context
  unless t.isName || (t.isWord "yield" && !c.yields) || (t.isWord "await" && !c.awaits) do
    throw .unexpected
  takeName
  return .name t.text

/-- Reads any word, for a place where none has a meaning of its own. -/
def wordText : Parse String := do
  let t ← token
  unless t.kind == .word do throw .unexpected
  takeName
  return t.text

def anyWord : Parse Node :=
  .name <$> wordText

/-- Reads words with dots between them. -/
def wordPath (limit : Nat) : Parse (List String) := do
  let first ← wordText
  return first :: (← many (do if ← eatMark "." then some <$> wordText else return none) limit [])

def privateName : Parse Node := do
  takeName
  return .privateName

def stringLiteral : Parse StringLiteral := do
  let t ← token
  unless t.kind == .string do throw .unexpected
  take
  return ⟨t.text⟩

def literal : Parse Node := do
  let t ← token
  match t.kind with
  | .string => .string <$> stringLiteral
  | _ =>
    unless t.hasValue do throw .malformedNumber
    take
    return .literal

/-- Reads the key of a property, and tells whether it is computed. -/
def propertyKey (d : Descent) : Parse (Node × Bool) := do
  let t ← token
  if t.kind == .string || t.kind == .number then return (← literal, false)
  if t.isMark "[" then
    take
    let key ← withIn (d.parse .assignment)
    expectMark "]"
    return (key, true)
  return (← anyWord, false)

def spread (d : Descent) : Parse Node := do
  take
  return .spread (← d.parse .assignment)

/-- Reads decorators and keeps them for the class or the member that they stand in front of. -/
def keepDecorators (d : Descent) : Parse Unit := do
  let step : Parse (Option Node) := do
    if ← atMark "@" then
      take
      let inner ← within (fun c => { c with inDecorator := true }) (d.parse .leftHand)
      return some (.decorator inner)
    else return none
  let found ← many step d.limit []
  modify fun s => { s with decorators := s.decorators ++ found }

/-- The decorators that have been kept. -/
def keptDecorators : Parse (List Node) := do
  let s ← get
  set { s with decorators := [] }
  return s.decorators

end LinkSurvey.Script.Parser
