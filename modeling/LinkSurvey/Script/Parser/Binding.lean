import LinkSurvey.Script.Parser.Name

/-!
Patterns that bind names. The rest of an array or an object comes last; if it does not, the pattern
is read all the same, and the rest comes last in the tree.
-/

namespace LinkSurvey.Script.Parser

/-- Reads a default value for a pattern, if there is one. -/
def optionalDefault (d : Descent) (pattern : Node) : Parse Node := withIn do
  if ← eatMark "=" then
    return .withDefault pattern (← d.parse .assignment)
  else return pattern

def patternWithDefault (d : Descent) : Parse Node := do
  optionalDefault d (← d.parse .pattern)

/-- Reads the rest of an array, of an object or of parameters. -/
def restElement (d : Descent) : Parse Node := do
  take
  let inner ← patternWithDefault d
  if ← atMark "," then
    let next ← ahead
    if next.isMark "]" || next.isMark "\x7d" then
      take
      fault .commaAfterRest
    fault .restNotLast
  return .rest inner

/-- Reads elements between commas, and a rest among them. -/
def withRestFrom (d : Descent) (close : String) (item : Parse Node) :
    Nat → List Node → Option Node → Bool → Parse (List Node × Option Node)
  | 0, _, _, _ => throw .tooDeep
  | limit + 1, found, rest?, first => do
    let t ← token
    if t.isMark close || t.isDone then return (found.reverse, rest?)
    unless first do expectMark ","
    if !first && (← atMark close) then return (found.reverse, rest?)
    if ← atMark "..." then
      let rest ← restElement d
      faultIf rest?.isSome .restNotLast
      withRestFrom d close item limit found (some rest) false
    else
      withRestFrom d close item limit ((← item) :: found) rest? false

def withRest (d : Descent) (close : String) (item : Parse Node) : Parse (List Node × Option Node) :=
  withRestFrom d close item d.limit [] none true

def arrayPattern (d : Descent) : Parse Node := do
  take
  let element : Parse Node := do
    if ← atMark "," then return .hole else patternWithDefault d
  let (elements, rest?) ← withRest d "]" element
  expectMark "]"
  return .arrayPattern elements rest?

/-- Reads a property of an object pattern. A name alone stands for the key and for what it binds. -/
def patternProperty (d : Descent) : Parse Node := do
  let t ← token
  let (key, _) ← propertyKey d
  if t.isBindingName && !(← atMark ":") then
    return .patternProperty key (← optionalDefault d key)
  else
    expectMark ":"
    return .patternProperty key (← patternWithDefault d)

def bindsOneName : Node → Bool
  | .rest (.name _) => true
  | _ => false

def objectPattern (d : Descent) : Parse Node := do
  take
  let (properties, rest?) ← withRest d "\x7d" (patternProperty d)
  if let some rest := rest? then
    faultIf (!bindsOneName rest) .notAssignable
  expectMark "\x7d"
  return .objectPattern properties rest?

def pattern (d : Descent) : Parse Node := do
  let t ← token
  if t.isMark "[" then arrayPattern d
  else if t.isMark "\x7b" then objectPattern d
  else bindingName

end LinkSurvey.Script.Parser
