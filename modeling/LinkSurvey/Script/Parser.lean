import LinkSurvey.Script.Parser.Element
import LinkSurvey.Script.Parser.Expression
import LinkSurvey.Script.Parser.Statement
import LinkSurvey.Script.Parser.TypeExpression

/-!
Whole scripts. Every construct that is asked for takes a step of the descent. A token is reached
through a bounded number of constructs, so a multiple of the length of the text is steps enough.
-/

namespace LinkSurvey.Script.Parser

/-- Parses a construct within so many steps. -/
def descend : Nat → Goal → Parse Node
  | 0, _ => throw .tooDeep
  | steps + 1, goal =>
    let d : Descent := ⟨descend steps, steps⟩
    match goal with
    | .statement role => statement d role
    | .expression => expression d
    | .assignment => assignment d
    | .binary floor => binary d floor
    | .unary => unary d
    | .leftHand => leftHand d
    | .callee => callee d
    | .pattern => pattern d
    | .element nested => element d nested
    | .type => typeExpression d

def steps (source : List Char) : Nat :=
  16 * (source.length + 4)

/-- Parses statements up to the end of the text. -/
def script (d : Descent) : Parse Node := do
  let step : Parse (Option Node) := do
    if (← token).isDone then return none else some <$> d.parse (.statement .listed)
  let (directives, statements) := Node.splitDirectives (← many step d.limit [])
  return .script directives statements

/-- Leaves out the first line if it tells a system how to run the script. -/
def withoutInterpreter : List Char → List Char
  | '#' :: '!' :: cs => cs.dropWhile fun c => !isLineEnd c
  | cs => cs

/-- The state at the start of a script. A module may wait for values outside of functions. -/
def start (d : Dialect) (source : List Char) : State :=
  let first := Lexer.next d true (withoutInterpreter source)
  { dialect := d
    token := first.token
    rest := first.rest
    context := { awaits := d == .module }
    faults := first.faults
    comment := first.comment }

/-- The text of a comment without its marks. -/
def commentText (c : Comment) : List Char :=
  if c.isBlock then blockText c.text else c.text.takeWhile fun c => !isLineEnd c
where
  blockText : List Char → List Char
    | [] => []
    | '*' :: '/' :: _ => []
    | c :: cs => c :: blockText cs

/-- Whether a text holds the sign of a typed dialect that is not read. -/
def namesOtherLanguage : List Char → Bool
  | [] => false
  | c :: cs => "@flow".toList.isPrefixOf (c :: cs) || namesOtherLanguage cs

/-- The faults of a script. One that says at its start that it is in another language has no others. -/
def State.finalFaults (s : State) : List Fault :=
  if s.faults.isEmpty then []
  else
    match s.comment with
    | some c => if namesOtherLanguage (commentText c) then [.otherLanguage] else s.faults.reverse
    | none => s.faults.reverse

/-- Parses a script: gives its tree and the faults in it, or all faults if parsing ends in one. -/
def parse (d : Dialect) (source : List Char) : Except (List Fault) (Node × List Fault) :=
  let n := steps source
  match script ⟨descend n, n⟩ (start d source) with
  | .ok tree s => .ok (tree, s.finalFaults)
  | .error f s => .error { s with faults := f :: s.faults }.finalFaults

end LinkSurvey.Script.Parser
