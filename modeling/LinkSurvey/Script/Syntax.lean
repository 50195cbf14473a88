import LinkSurvey.Script.Fault
import LinkSurvey.Script.Token

/-!
Syntax trees of scripts. Every construct has children of its own, in the order in which they are
written. Text stands in string literals, which are trees or parts of other constructs, and in the
chunks of templates.
-/

namespace LinkSurvey.Script

/-- A string in quotes, by what it stands for. -/
structure StringLiteral where
  value : String
  deriving DecidableEq, Repr

/-- A syntax tree. -/
inductive Node where
  | name (text : String)
  | string (literal : StringLiteral)
  | template (quasis : List Quasi) (holes : List Node)
  -- the script and its statements
  | script (directives : List StringLiteral) (statements : List Node)
  | block (statements : List Node)
  | emptyStatement
  | expressionStatement (expression : Node)
  | ifStatement (test first : Node) (other? : Option Node)
  | doLoop (body test : Node)
  | whileLoop (test body : Node)
  | forLoop (initial? test? step? : Option Node) (body : Node)
  | forIn (target source body : Node)
  | forOf (target source body : Node)
  | continueStatement (label? : Option Node)
  | breakStatement (label? : Option Node)
  | returnStatement (value? : Option Node)
  | withStatement (object body : Node)
  | switchStatement (value : Node) (branches : List Node)
  | switchCase (test? : Option Node) (statements : List Node)
  | labelled (label body : Node)
  | throwStatement (value : Node)
  | tryStatement (body : Node) (handler? last? : Option Node)
  | catchClause (pattern? : Option Node) (body : Node)
  | debugger
  -- declarations and patterns
  | variableList (isLexical : Bool) (declarators : List Node)
  | using (declarators : List Node)
  | declarator (pattern : Node) (value? : Option Node)
  | arrayPattern (elements : List Node) (rest? : Option Node)
  | objectPattern (properties : List Node) (rest? : Option Node)
  | patternProperty (key value : Node)
  | withDefault (pattern value : Node)
  | rest (pattern : Node)
  -- functions and classes
  | function (isAsync isGenerator : Bool) (name? : Option Node) (parameters body : Node)
  | arrow (parameters body : Node)
  | parameters (items : List Node) (rest? : Option Node)
  | parameter (decorators : List Node) (pattern : Node)
  | body (directives : List StringLiteral) (statements : List Node)
  | classDefinition (decorators : List Node) (name? parent? : Option Node)
      (parentTypes interfaces members : List Node)
  | method (decorators : List Node) (key value : Node)
  | field (decorators : List Node) (key : Node) (value? : Option Node)
  | staticBlock (statements : List Node)
  | decorator (expression : Node)
  -- expressions
  | this
  | super
  | literal
  | regex
  | privateName
  | array (elements : List Node) (endsWithComma : Bool)
  | hole
  | spread (inner : Node)
  | object (properties : List Node)
  | property (key value : Node)
  | shorthand (key value : Node) (default? : Option Node)
  | parenthesized (inner : Node)
  | sequence (expressions : List Node)
  | member (object property : Node)
  | chain (operand : Node)
  | call (callee : Node) (arguments : List Node)
  | new (callee : Node) (arguments : List Node)
  | importCall (source : Node) (options? : Option Node)
  | metaProperty
  | tagged (tag template : Node)
  | prefixOperation (operand : Node)
  | update (operand : Node)
  | binary (left right : Node)
  | conditional (condition first second : Node)
  | assignment (target value : Node)
  | awaitOperation (operand : Node)
  | yieldOperation (operand? : Option Node)
  | typed (value type : Node)
  -- modules
  | importDeclaration (specifiers : List Node) (source : StringLiteral) (attributes : List Node)
  | importSpecifier (exported? : Option Node) (binding : Node)
  | exportDeclaration (declaration : Node)
  | exportNames (specifiers : List Node) (source? : Option StringLiteral) (attributes : List Node)
  | exportAll (exported? : Option Node) (source : StringLiteral) (attributes : List Node)
  | exportSpecifier (inner exported : Node)
  | attributeEntry (key : Node) (value : StringLiteral)
  -- markup
  | element (opening : Node) (children : List Node)
  | fragment (children : List Node)
  | opening (name : Node) (attributes : List Node)
  | spacedName (space text : String)
  | namePath (names : List String)
  | markupAttribute (name : Node) (value? : Option Node)
  | markupSpread (inner : Node)
  | container (inner? : Option Node)
  | markupText
  -- types
  | typeReference (path : List String) (arguments : List Node)
  | typeOperation (operand : Node)
  | tupleType (elements : List Node)
  | objectType (members : List Node)
  | typeMember (key : Node) (type? : Option Node)
  | arrayType (element : Node)
  | indexedType (object index : Node)
  | joinedType (types : List Node)
  deriving Repr

instance : Inhabited Node := ⟨.emptyStatement⟩

namespace Node

/-- Whether a tree is one name. -/
def isName : Node → Bool
  | .name _ => true
  | _ => false

def isSequence : Node → Bool
  | .sequence _ => true
  | _ => false

def isImportCall : Node → Bool
  | .importCall _ _ => true
  | _ => false

def isChain : Node → Bool
  | .chain _ => true
  | _ => false

def isAsyncFunction : Node → Bool
  | .function isAsync _ _ _ _ => isAsync
  | _ => false

def isGeneratorFunction : Node → Bool
  | .function _ isGenerator _ _ _ => isGenerator
  | _ => false

/-- Whether a tree declares variables by `let` or `const`. -/
def isLexicalList : Node → Bool
  | .variableList isLexical _ => isLexical
  | _ => false

/-- A statement that is nothing but a string is a directive where directives may stand. -/
def directive? : Node → Option StringLiteral
  | .expressionStatement (.string text) => some text
  | _ => none

/-- The directives that a list of statements starts with, and the statements after them. -/
def splitDirectives : List Node → List StringLiteral × List Node
  | [] => ([], [])
  | n :: ns =>
    match n.directive? with
    | some text => (text :: (splitDirectives ns).1, (splitDirectives ns).2)
    | none => ([], n :: ns)

def isPatternLike : Node → Bool
  | .object _ | .array _ _ => true
  | _ => false

/-- Whether a value can be assigned to a tree that is no pattern. Parentheses around it do not
matter, but there is nothing to assign to in a pattern within parentheses. -/
def isSimpleTarget : Node → Bool
  | .name _ | .member _ _ | .typed _ _ => true
  | .parenthesized inner => !inner.isPatternLike && isSimpleTarget inner
  | _ => false

mutual

/-- Reads an expression as what a value is assigned to: gives the faults in it, unless one of them
makes this impossible. -/
def targetFaults : Node → Except Fault (List Fault)
  | .array elements endsWithComma => elementFaults endsWithComma elements
  | .object properties => propertyFaults properties
  | n => if isSimpleTarget n then .ok [] else .error .notAssignable

/-- A rest element ends an array. -/
def elementFaults (endsWithComma : Bool) : List Node → Except Fault (List Fault)
  | [] => .ok []
  | .spread inner :: [] => do
    let faults ← targetFaults inner
    return if endsWithComma then .commaAfterRest :: faults else faults
  | .spread _ :: _ => .error .restNotLast
  | .hole :: ns => elementFaults endsWithComma ns
  | .assignment _ _ :: ns => elementFaults endsWithComma ns
  | n :: ns => do
    let faults ← targetFaults n
    return faults ++ (← elementFaults endsWithComma ns)

/-- A rest property ends an object. -/
def propertyFaults : List Node → Except Fault (List Fault)
  | [] => .ok []
  | .spread inner :: [] => targetFaults inner
  | .spread _ :: _ => .error .restNotLast
  | .property _ (.assignment _ _) :: ns => propertyFaults ns
  | .property _ value :: ns => do
    let faults ← targetFaults value
    return faults ++ (← propertyFaults ns)
  | .shorthand _ _ _ :: ns => propertyFaults ns
  | _ :: _ => .error .notAssignable

end

end Node

end LinkSurvey.Script
