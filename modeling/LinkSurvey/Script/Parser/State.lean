import LinkSurvey.Script.Lexer
import LinkSurvey.Script.Syntax

/-!
The state of a parser: the token at hand, the text after it and where in the script it stands. A
fault is either recorded, and parsing goes on, or it ends parsing. An attempt that ends so leaves
nothing behind but the places at which no arrow function starts, which need not be tried again.

The grammar is recursive without end, so no parser calls another one for a construct that may hold
itself. It asks a `Descent` for it instead, which has one step less to go.
-/

namespace LinkSurvey.Script.Parser

/-- Where in the script the parser stands, as far as the grammar depends on it. -/
structure Context where
  /-- Whether `in` is an operator here. -/
  inOperator : Bool := true
  yields : Bool := false
  awaits : Bool := false
  returns : Bool := false
  inDecorator : Bool := false
  deriving DecidableEq, Repr

structure State where
  dialect : Dialect
  token : Token
  /-- The text after the token. -/
  rest : List Char
  context : Context
  /-- The faults found so far, last one first. -/
  faults : List Fault := []
  comment : Option Comment := none
  /-- How many tokens have been taken. -/
  taken : Nat := 0
  /-- Decorators whose class or member has not come yet. -/
  decorators : List Node := []
  /-- Places, by the tokens before them, at which no arrow function starts. -/
  notArrows : List Nat := []

abbrev Parse := EStateM Fault State

/-- Where a statement stands: in a list of statements, or alone as what another one governs. -/
inductive Role where
  | listed
  | body
  deriving DecidableEq, Repr

/-- What can be asked for. -/
inductive Goal where
  | statement (role : Role)
  | expression
  | assignment
  /-- An expression whose operators all bind tighter. -/
  | binary (floor : Nat)
  | unary
  /-- What can stand before an operator after it: calls, members and the like. -/
  | leftHand
  /-- What `new` takes: members, but no calls. -/
  | callee
  | pattern
  | element (nested : Bool)
  | type
  deriving DecidableEq, Repr

/-- How a parser gets what is nested in its construct. -/
structure Descent where
  parse : Goal → Parse Node
  /-- More rounds than any loop needs. -/
  limit : Nat

/-! ### Faults -/

def fault (f : Fault) : Parse Unit :=
  modify fun s => { s with faults := f :: s.faults }

def faultIf (condition : Bool) (f : Fault) : Parse Unit :=
  if condition then fault f else pure ()

/-! ### Tokens -/

def token : Parse Token :=
  return (← get).token

def context : Parse Context :=
  return (← get).context

/-- Goes on to a token. -/
def shift (l : Lexeme) : Parse Unit :=
  modify fun s => { s with
    token := l.token
    rest := l.rest
    faults := l.faults ++ s.faults
    comment := s.comment <|> l.comment
    taken := s.taken + 1 }

/-- Puts another reading in place of the token at hand. -/
def reread (l : Lexeme) : Parse Unit :=
  modify fun s => { s with token := l.token, rest := l.rest, faults := l.faults ++ s.faults }

/-- Goes past the token at hand as a name. -/
def takeName : Parse Unit := do
  let s ← get
  shift (Lexer.next s.dialect false s.rest)

/-- A word with a meaning must not be written with escapes. -/
def checkSpelling : Parse Unit := do
  let t ← token
  faultIf (t.escaped && isKeyword t.text) .escapedKeyword

def take : Parse Unit := do
  checkSpelling
  takeName

/-- Goes past the token at hand into text between tags. -/
def takeIntoMarkup : Parse Unit := do
  checkSpelling
  let s ← get
  shift (Lexer.markup s.rest)

/-- The first token of a text, or the one so many tokens further. -/
def tokenAhead (d : Dialect) (cs : List Char) : Nat → Token
  | 0 => (Lexer.next d false cs).token
  | n + 1 => tokenAhead d (Lexer.next d false cs).rest n

/-- The token so many tokens further than the one after the one at hand. -/
def aheadBy (further : Nat) : Parse Token := do
  let s ← get
  return tokenAhead s.dialect s.rest further

/-- The token after the one at hand. -/
def ahead : Parse Token :=
  aheadBy 0

def atMark (spelling : String) : Parse Bool :=
  return (← token).isMark spelling

def atWord (text : String) : Parse Bool :=
  return (← token).isWord text

def eatMark (spelling : String) : Parse Bool := do
  if ← atMark spelling then
    take
    return true
  else return false

def eatWord (text : String) : Parse Bool := do
  if ← atWord text then
    take
    return true
  else return false

def expectMark (spelling : String) : Parse Unit := do
  if ← atMark spelling then take else throw (.expected spelling)

def expectWord (text : String) : Parse Unit := do
  if ← atWord text then take else throw (.expected text)

def expectMarkIntoMarkup (spelling : String) : Parse Unit := do
  if ← atMark spelling then takeIntoMarkup else throw (.expected spelling)

/-- Whether a statement may end here without a semicolon, or with one. -/
def canEnd : Parse Bool := do
  let t ← token
  return t.isMark ";" || t.isMark "\x7d" || t.isDone || t.afterLineBreak

def endStatement : Parse Unit := do
  if ← canEnd then
    let _ ← eatMark ";"
  else throw .missingSemicolon

/-! ### Context, attempts and loops -/

/-- Parses in a changed context. -/
def within (change : Context → Context) (p : Parse α) : Parse α := do
  let before ← context
  modify fun s => { s with context := change s.context }
  let result ← p
  modify fun s => { s with context := before }
  return result

def withIn (p : Parse α) : Parse α :=
  within (fun c => { c with inOperator := true }) p

/-- Tries to parse, and if this ends in a fault, stands where it stood before. -/
def attempt (p : Parse α) : Parse (Option α) := fun s =>
  match p s with
  | .ok a s' => .ok (some a) s'
  | .error _ s' => .ok none { s with notArrows := s'.notArrows }

/-- Repeats a step until it gives nothing. -/
def many (step : Parse (Option α)) : Nat → List α → Parse (List α)
  | 0, _ => throw .tooDeep
  | limit + 1, found => do
    match ← step with
    | some item => many step limit (item :: found)
    | none => return found.reverse

/-- Parses items between commas up to a mark, and tells whether a comma comes last. If none may, it
is left for whoever expects the mark. -/
def listFrom (close : String) (trailing : Bool) (item : Parse Node) :
    Nat → List Node → Parse (List Node × Bool)
  | 0, _ => throw .tooDeep
  | limit + 1, found => do
    let t ← token
    if t.isMark close || t.isDone then return (found.reverse, false)
    if !found.isEmpty then
      if !trailing && t.isMark "," then
        if (← ahead).isMark close then return (found.reverse, true)
      expectMark ","
    if !found.isEmpty && (← atMark close) then return (found.reverse, true)
    let node ← item
    listFrom close trailing item limit (node :: found)

def list (d : Descent) (close : String) (item : Parse Node) : Parse (List Node) := do
  return (← listFrom close true item d.limit []).1

/-- Parses items between marks. -/
def enclosed (d : Descent) (openMark close : String) (item : Parse (Option Node)) :
    Parse (List Node) := do
  expectMark openMark
  let step : Parse (Option Node) := do
    let t ← token
    if t.isMark close || t.isDone then return none
    item
  let nodes ← many step d.limit []
  expectMark close
  return nodes

end LinkSurvey.Script.Parser
