import LinkSurvey.Script.Parser.Function

/-!
Arrow functions. Whether a parenthesis opens the parameters of one is often decided by the few tokens
after it. Where it is not, the parameters are tried, and if no arrow follows them the place is
remembered, so that it is tried once only.
-/

namespace LinkSurvey.Script.Parser

inductive Likelihood where
  | no
  | maybe
  | yes
  deriving DecidableEq, Repr

/-- Words after which a parameter may follow in the typed dialects. -/
def parameterWords : List String :=
  ["accessor", "const", "default", "export", "in", "out"] ++ modifierWords

/-- Judges by the tokens after a parenthesis. -/
def parenthesisLikelihood (second third fourth : Token) : Likelihood :=
  if second.isMark ")" then
    if third.isMark "=>" || third.isMark "\x7b" then .yes else .no
  else if second.isMark "[" || second.isMark "\x7b" || second.isMark "..." then .maybe
  else if second.kind == .word && parameterWords.contains second.text && third.isName then
    if third.isWord "as" then .no else .yes
  else if !second.isName && !second.isWord "this" then .no
  else if third.isMark ":" then .yes
  else if third.isMark "?" then
    if fourth.isMark ":" || fourth.isMark "," || fourth.isMark "=" || fourth.isMark ")" then .yes
    else .no
  else if third.isMark "," || third.isMark "=" || third.isMark ")" then .maybe
  else .no

/-- Judges a tag-like beginning, which may be the type parameters of an arrow function. -/
def angleLikelihood (second third fourth : Token) : Likelihood :=
  if !second.isName then .no
  else if third.isMark "," || third.isMark "=" then .yes
  else if third.isWord "extends" then
    if fourth.isMark "=" || fourth.isMark ">" || fourth.isMark "/" then .no else .yes
  else .no

def arrowLikelihood : Parse Likelihood := do
  let t ← token
  let judge (opener : Token) (further : Nat) : Parse Likelihood := do
    if opener.isMark "(" then
      return parenthesisLikelihood (← aheadBy further) (← aheadBy (further + 1)) (← aheadBy (further + 2))
    else if opener.isMark "<" then
      return angleLikelihood (← aheadBy further) (← aheadBy (further + 1)) (← aheadBy (further + 2))
    else return .no
  if t.isWord "async" then
    let opener ← ahead
    if opener.afterLineBreak then return .no
    judge opener 1
  else judge t 0

/-- Expects the arrow, which must stand on the line of the parameters. -/
def expectArrow : Parse Unit := do
  let t ← token
  faultIf t.afterLineBreak .lineBreakBeforeArrow
  expectMark "=>"

/-- Reads the parameters of an arrow function and the arrow, and tells whether it is asynchronous. -/
def arrowHead (d : Descent) : Parse (Bool × Node) := do
  let isAsync ← eatWord "async"
  let parameters ← within (fun c => { c with awaits := c.awaits || isAsync }) (parameters d)
  expectArrow
  return (isAsync, parameters)

def arrowBody (d : Descent) (isAsync : Bool) (parameters : Node) : Parse Node :=
  within (fun c => { c with awaits := isAsync, yields := false }) do
    let body ← if ← atMark "\x7b" then functionBody d else d.parse .assignment
    return .arrow parameters body

/-- Reads an arrow function with parentheses, if there is one here. -/
def parenthesizedArrow? (d : Descent) : Parse (Option Node) := do
  match ← arrowLikelihood with
  | .no => return none
  | .yes =>
    let (isAsync, parameters) ← arrowHead d
    some <$> arrowBody d isAsync parameters
  | .maybe =>
    let s ← get
    if s.notArrows.contains s.taken then return none
    match ← attempt (arrowHead d) with
    | some (isAsync, parameters) => some <$> arrowBody d isAsync parameters
    | none =>
      modify fun s => { s with notArrows := s.taken :: s.notArrows }
      return none

/-- Reads the arrow and the body of a function whose only parameter has been read as a name. -/
def arrowAfter (d : Descent) (isAsync : Bool) (parameter : Node) : Parse Node := do
  expectArrow
  arrowBody d isAsync (.parameters [parameter] none)

/-- Reads an asynchronous arrow function with one parameter, if there is one here. -/
def asyncArrow? (d : Descent) : Parse (Option Node) := do
  unless ← atWord "async" do return none
  let name ← ahead
  if name.afterLineBreak || !name.isBindingName then return none
  unless (← aheadBy 1).isMark "=>" do return none
  take
  some <$> arrowAfter d true (← bindingName)

end LinkSurvey.Script.Parser
