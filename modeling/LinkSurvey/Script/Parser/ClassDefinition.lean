import LinkSurvey.Script.Parser.Function

/-!
Classes. Of several classes that one is said to extend the first one counts. Members may carry the
modifiers and the marks of typed dialects, which mean nothing here.
-/

namespace LinkSurvey.Script.Parser

/-- Reads types between angle brackets, if there are any. -/
def typeArguments (d : Descent) : Parse (List Node) := do
  unless ← eatMark "<" do return []
  let types ← list d ">" (d.parse .type)
  expectMark ">"
  return types

/-- Reads what follows a comma, as long as one does. -/
def afterCommas (d : Descent) (item : Parse α) : Parse (List α) :=
  many (do if ← eatMark "," then some <$> item else return none) d.limit []

/-- What stands between the name of a class and its members. -/
structure Heritage where
  parent? : Option Node := none
  /-- The types that the parent is applied to. -/
  parentTypes : List Node := []
  interfaces : List Node := []

def extendedClass (d : Descent) : Parse Heritage := do
  let parent ← d.parse .leftHand
  return { parent? := some parent, parentTypes := ← typeArguments d }

def implementedType (d : Descent) : Parse Node := do
  let path ← wordPath d.limit
  return .typeReference path (← typeArguments d)

/-- Reads what a class extends, and then what it implements; either may be missing. -/
def heritage (d : Descent) : Parse Heritage := do
  let mut h : Heritage := {}
  if ← eatWord "extends" then
    h ← extendedClass d
    let _ ← afterCommas d (extendedClass d)
    if ← atWord "extends" then throw .repeatedHeritage
  if ← eatWord "implements" then
    let first ← implementedType d
    h := { h with interfaces := first :: (← afterCommas d (implementedType d)) }
    if (← atWord "extends") || (← atWord "implements") then throw .repeatedHeritage
  return h

/-- What stands in front of a member's name. -/
structure Member where
  isStatic : Bool := false
  isAsync : Bool := false
  isGenerator : Bool := false
  isAccessor : Bool := false
  key? : Option (Node × Bool) := none

/-- The name of a member that is not computed. -/
def memberName? : Node × Bool → Option String
  | (.name text, false) | (.string ⟨text⟩, false) => some text
  | _ => none

def memberKey (d : Descent) : Parse (Node × Bool) := do
  let t ← token
  if t.kind == .privateName then
    let key ← privateName
    faultIf (t.text == "constructor") .privateConstructor
    return (key, false)
  propertyKey d

/-- Reads the words and marks in front of a member's name. The last one of the words may turn out to
be the name. -/
def memberHead (d : Descent) (isStatic : Bool) : Parse Member := do
  let mut m : Member := { isStatic := isStatic }
  if ← atWord "static" then
    let next ← ahead
    if next.isMemberName || next.isMark "*" then
      take
      m := { m with isStatic := true }
    else m := { m with key? := some (← memberKey d) }
  if m.key?.isNone && (← atWord "accessor") then
    let next ← ahead
    if next.isMemberName && !next.afterLineBreak then take
  if m.key?.isNone && (← atWord "async") then
    let next ← ahead
    unless next.isMark "?" do
      if (next.isMemberName || next.isMark "*") && !next.afterLineBreak then
        take
        m := { m with isAsync := true }
      else m := { m with key? := some (← memberKey d) }
  if m.key?.isNone && (← eatMark "*") then m := { m with isGenerator := true }
  if m.key?.isNone && !m.isAsync && !m.isGenerator then
    if (← ahead).isMemberName then
      if (← atWord "get") || (← atWord "set") then
        take
        m := { m with isAccessor := true }
  return m

/-- A method must not take the place of the constructor or of the prototype. -/
def checkMethod (m : Member) (name : String) : Parse Unit := do
  if m.isStatic then faultIf (name == "prototype") .staticPrototype
  else if name == "constructor" then
    faultIf m.isAccessor .constructorAccessor
    faultIf m.isAsync .constructorAsync
    faultIf m.isGenerator .constructorGenerator

def checkField (m : Member) (name : String) : Parse Unit := do
  if m.isStatic then faultIf (name == "prototype") .staticPrototype
  else faultIf (name == "constructor") .constructorField

def method (d : Descent) (m : Member) (key : Node × Bool) : Parse Node := do
  let decorators ← keptDecorators
  let value ← functionFrom d m.isAsync m.isGenerator none
  if let some name := memberName? key then checkMethod m name
  return .method decorators key.1 value

def field (d : Descent) (m : Member) (key : Node × Bool) : Parse Node := do
  let decorators ← keptDecorators
  let mut value? := none
  if ← eatMark "=" then
    value? ← some <$> within (fun c => { c with inOperator := true, yields := false, awaits := false })
      (d.parse .expression)
  endStatement
  if let some name := memberName? key then checkField m name
  return .field decorators key.1 value?

/-- Reads a member from behind its modifiers. -/
def memberFrom (d : Descent) (isStatic : Bool) : Parse Node := do
  let m ← memberHead d isStatic
  let key ← match m.key? with
    | some key => pure key
    | none => memberKey d
  let _ ← eatMark "?"
  let _ ← eatMark "!"
  if (← atMark "(") || (← atMark "<") then method d m key
  else
    if m.isAccessor || m.isAsync || m.isGenerator then throw .unexpected
    field d m key

def staticBlock (d : Descent) : Parse Node := do
  take
  within (fun c => { c with awaits := true, yields := false, returns := false }) do
    return .staticBlock (← statements d)

/-- Reads a member of a class, unless the class ends. -/
def classMember (d : Descent) : Parse (Option Node) := do
  let _ ← many (do if ← eatMark ";" then return some () else return none) d.limit []
  if ← atMark "\x7d" then return none
  keepDecorators d
  let isStatic ← modifiersFrom d.limit false
  if ← atWord "static" then
    if (← ahead).isMark "\x7b" then return some (← staticBlock d)
  some <$> memberFrom d isStatic

/-- Reads a class from the word `class` on. -/
def classDefinition (d : Descent) : Parse Node := do
  take
  let decorators ← keptDecorators
  let t ← token
  let name? ←
    if t.isBindingName && !t.isWord "implements" then some <$> bindingName else pure none
  let heritage ← heritage d
  let members ← enclosed d "\x7b" "\x7d" (classMember d)
  return .classDefinition decorators name? heritage.parent? heritage.parentTypes heritage.interfaces members

end LinkSurvey.Script.Parser
