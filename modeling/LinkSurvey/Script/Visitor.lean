import LinkSurvey.Script.Syntax

/-!
The walk over a syntax tree that collects addresses. It goes through the children of each construct
in the order in which they are written, and stops at two kinds of nodes to take their text: string
literals, and templates, whose chunks come before what fills their holes. The walk goes on into the
holes from there, past the chunks once more, but takes nothing from a chunk itself.
-/

namespace LinkSurvey.Script

/-- Whether a text is an address that needs no base. -/
def isWebAddress (text : String) : Bool :=
  "http://".toList.isPrefixOf text.toList || "https://".toList.isPrefixOf text.toList

/-- What is taken from a text. -/
def addressIn (text : String) : List String :=
  if isWebAddress text then [text] else []

/-! ### Where the walk stops -/

def visitString (s : StringLiteral) : List String :=
  addressIn s.value

/-- What is taken at a template, before the walk goes on from there. -/
def takeChunks (quasis : List Quasi) : List String :=
  quasis.flatMap fun q => addressIn q.text

/-- Nothing is taken at a chunk. -/
def visitChunk (_ : Quasi) : List String :=
  []

/-! ### The walk -/

mutual

/-- The addresses among the literals of a tree, in the order of the walk and with repeats. -/
def visit : Node → List String
  | .name _ => []
  | .string s => visitString s
  | .template quasis holes =>
    takeChunks quasis ++ (quasis.flatMap visitChunk ++ visitAll holes)
  -- the script and its statements
  | .script directives statements =>
    directives.flatMap visitString ++ visitAll statements
  | .block statements => visitAll statements
  | .emptyStatement => []
  | .expressionStatement expression => visit expression
  | .ifStatement test first other? => visit test ++ visit first ++ visitAny other?
  | .doLoop body test => visit body ++ visit test
  | .whileLoop test body => visit test ++ visit body
  | .forLoop initial? test? step? body =>
    visitAny initial? ++ visitAny test? ++ visitAny step? ++ visit body
  | .forIn target source body => visit target ++ visit source ++ visit body
  | .forOf target source body => visit target ++ visit source ++ visit body
  | .continueStatement label? => visitAny label?
  | .breakStatement label? => visitAny label?
  | .returnStatement value? => visitAny value?
  | .withStatement object body => visit object ++ visit body
  | .switchStatement value branches => visit value ++ visitAll branches
  | .switchCase test? statements => visitAny test? ++ visitAll statements
  | .labelled label body => visit label ++ visit body
  | .throwStatement value => visit value
  | .tryStatement body handler? last? =>
    visit body ++ visitAny handler? ++ visitAny last?
  | .catchClause pattern? body => visitAny pattern? ++ visit body
  | .debugger => []
  -- declarations and patterns
  | .variableList _ declarators => visitAll declarators
  | .using declarators => visitAll declarators
  | .declarator pattern value? => visit pattern ++ visitAny value?
  | .arrayPattern elements rest? => visitAll elements ++ visitAny rest?
  | .objectPattern properties rest? => visitAll properties ++ visitAny rest?
  | .patternProperty key value => visit key ++ visit value
  | .withDefault pattern value => visit pattern ++ visit value
  | .rest pattern => visit pattern
  -- functions and classes
  | .function _ _ name? parameters body =>
    visitAny name? ++ visit parameters ++ visit body
  | .arrow parameters body => visit parameters ++ visit body
  | .parameters items rest? => visitAll items ++ visitAny rest?
  | .parameter decorators pattern => visitAll decorators ++ visit pattern
  | .body directives statements =>
    directives.flatMap visitString ++ visitAll statements
  | .classDefinition decorators name? parent? parentTypes interfaces members =>
    visitAll decorators ++ visitAny name? ++ visitAny parent?
      ++ visitAll parentTypes ++ visitAll interfaces ++ visitAll members
  | .method decorators key value => visitAll decorators ++ visit key ++ visit value
  | .field decorators key value? =>
    visitAll decorators ++ visit key ++ visitAny value?
  | .staticBlock statements => visitAll statements
  | .decorator expression => visit expression
  -- expressions
  | .this => []
  | .super => []
  | .literal => []
  | .regex => []
  | .privateName => []
  | .array elements _ => visitAll elements
  | .hole => []
  | .spread inner => visit inner
  | .object properties => visitAll properties
  | .property key value => visit key ++ visit value
  | .shorthand key value default? => visit key ++ visit value ++ visitAny default?
  | .parenthesized inner => visit inner
  | .sequence expressions => visitAll expressions
  | .member object property => visit object ++ visit property
  | .chain operand => visit operand
  | .call callee arguments => visit callee ++ visitAll arguments
  | .new callee arguments => visit callee ++ visitAll arguments
  | .importCall source options? => visit source ++ visitAny options?
  | .metaProperty => []
  | .tagged tag template => visit tag ++ visit template
  | .prefixOperation operand => visit operand
  | .update operand => visit operand
  | .binary left right => visit left ++ visit right
  | .conditional condition first second =>
    visit condition ++ visit first ++ visit second
  | .assignment target value => visit target ++ visit value
  | .awaitOperation operand => visit operand
  | .yieldOperation operand? => visitAny operand?
  | .typed value type => visit value ++ visit type
  -- modules
  | .importDeclaration specifiers source attributes =>
    visitAll specifiers ++ visitString source ++ visitAll attributes
  | .importSpecifier exported? binding => visitAny exported? ++ visit binding
  | .exportDeclaration declaration => visit declaration
  | .exportNames specifiers source? attributes =>
    visitAll specifiers ++ source?.toList.flatMap visitString
      ++ visitAll attributes
  | .exportAll exported? source attributes =>
    visitAny exported? ++ visitString source ++ visitAll attributes
  | .exportSpecifier inner exported => visit inner ++ visit exported
  | .attributeEntry key value => visit key ++ visitString value
  -- markup
  | .element opening children => visit opening ++ visitAll children
  | .fragment children => visitAll children
  | .opening name attributes => visit name ++ visitAll attributes
  | .spacedName _ _ => []
  | .namePath _ => []
  | .markupAttribute name value? => visit name ++ visitAny value?
  | .markupSpread inner => visit inner
  | .container inner? => visitAny inner?
  | .markupText => []
  -- types
  | .typeReference _ arguments => visitAll arguments
  | .typeOperation operand => visit operand
  | .tupleType elements => visitAll elements
  | .objectType members => visitAll members
  | .typeMember key type? => visit key ++ visitAny type?
  | .arrayType element => visit element
  | .indexedType object index => visit object ++ visit index
  | .joinedType types => visitAll types

def visitAll : List Node → List String
  | [] => []
  | n :: ns => visit n ++ visitAll ns

def visitAny : Option Node → List String
  | none => []
  | some n => visit n

end

end LinkSurvey.Script
