import LinkSurvey.Script.Parser.Function

/-!
Objects and arrays. A name with a default value is read in an object too, since the object may turn
out to be a pattern.
-/

namespace LinkSurvey.Script.Parser

/-- Reads an accessor from its word on. -/
def accessor (d : Descent) : Parse Node := do
  take
  let (key, _) ← propertyKey d
  return .property key (← functionFrom d false false none)

/-- Reads a method that is asynchronous or a generator. -/
def markedMethod (d : Descent) : Parse Node := do
  let isAsync ← eatWord "async"
  let isGenerator ← eatMark "*"
  let (key, _) ← propertyKey d
  return .property key (← functionFrom d isAsync isGenerator none)

def shorthandProperty (d : Descent) : Parse Node := do
  let name ← bindingName
  if ← eatMark "=" then return .shorthand name name (some (← d.parse .assignment))
  else return .shorthand name name none

def keyedProperty (d : Descent) : Parse Node := do
  let (key, _) ← propertyKey d
  if ← eatMark ":" then return .property key (← d.parse .assignment)
  else if (← atMark "(") || (← atMark "<") then
    return .property key (← functionFrom d false false none)
  else throw .unexpected

def property (d : Descent) : Parse Node := do
  let t ← token
  let next ← ahead
  if t.isMark "..." then spread d
  else if (t.isWord "get" || t.isWord "set") && next.isMemberName then accessor d
  else if t.isWord "async" && (next.isMemberName || next.isMark "*") && !next.afterLineBreak then
    markedMethod d
  else if t.isMark "*" && next.isMemberName then markedMethod d
  else if t.isBindingName
      && !(next.isMark "(" || next.isMark ":" || next.isMark "<" || next.isMark ".") then
    shorthandProperty d
  else keyedProperty d

def object (d : Descent) : Parse Node := do
  take
  let properties ← withIn (list d "\x7d" (property d))
  expectMark "\x7d"
  return .object properties

def array (d : Descent) : Parse Node := do
  take
  let element : Parse Node := do
    let t ← token
    if t.isMark "," then return .hole
    else if t.isMark "..." then spread d
    else d.parse .assignment
  let (elements, endsWithComma) ← withIn (listFrom "]" true element d.limit [])
  expectMark "]"
  return .array elements endsWithComma

end LinkSurvey.Script.Parser
