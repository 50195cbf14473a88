/-!
The tokens of a script. Words and marks are told apart by their spelling; whether a word is a name
or part of the language is decided where it stands, since most words of the language may be names.
-/

namespace LinkSurvey.Script

inductive Token.Kind where
  /-- The end of the text. -/
  | done
  /-- Characters that form no token. -/
  | unknown
  | word
  | privateName
  | mark
  | string
  | number
  | regex
  /-- A chunk of a template, which may be the first one, the last one or both. -/
  | chunk (first last : Bool)
  /-- Text between tags. -/
  | markupText
  deriving DecidableEq, Repr

/-- A chunk of a template has a cooked text, in which escapes are replaced. If one of them is
malformed, it only has the text as it is written. -/
inductive Quasi where
  | cooked (text : String)
  | raw (text : String)
  deriving DecidableEq, Repr

def Quasi.text : Quasi → String
  | .cooked text => text
  | .raw text => text

structure Token where
  kind : Token.Kind
  /-- The spelling of a mark, and what a word, a private name or a string stands for. -/
  text : String := ""
  /-- The text of a template's chunk. -/
  quasi : Quasi := .cooked ""
  /-- Whether a line ends between this token and the one before it. -/
  afterLineBreak : Bool := false
  /-- Whether a word is written with escapes. -/
  escaped : Bool := false
  /-- Whether a number has a value. -/
  hasValue : Bool := true
  deriving DecidableEq, Repr

/-- Words that are never names, with the two that are names only in some places. -/
def reservedWords : List String := [
  "await", "break", "case", "catch", "class", "const", "continue", "debugger", "default", "delete",
  "do", "else", "enum", "export", "extends", "false", "finally", "for", "function", "if", "import",
  "in", "instanceof", "new", "null", "return", "super", "switch", "this", "throw", "true", "try",
  "typeof", "var", "void", "while", "with", "yield"]

/-- Words that strict code reserves. -/
def strictWords : List String := [
  "implements", "interface", "let", "package", "private", "protected", "public", "static"]

/-- Names that mean something in some places. -/
def contextualWords : List String := [
  "abstract", "accessor", "any", "as", "assert", "asserts", "async", "bigint", "boolean",
  "constructor", "declare", "from", "get", "global", "infer", "intrinsic", "is", "keyof", "meta",
  "module", "namespace", "never", "number", "object", "of", "out", "override", "readonly", "require",
  "satisfies", "set", "string", "symbol", "target", "type", "undefined", "unique", "unknown", "using"]

def isKeyword (text : String) : Bool :=
  reservedWords.contains text || strictWords.contains text || contextualWords.contains text

/-- Words in front of a class member or a parameter. -/
def modifierWords : List String := [
  "abstract", "declare", "override", "private", "protected", "public", "readonly", "static"]

def assignmentMarks : List String := [
  "=", "+=", "-=", "*=", "/=", "%=", "**=", "<<=", ">>=", ">>>=", "&=", "|=", "^=", "&&=", "||=", "??="]

namespace Token

variable (t : Token)

def isWord (text : String) : Bool :=
  t.kind == .word && t.text == text

def isMark (spelling : String) : Bool :=
  t.kind == .mark && t.text == spelling

def isDone : Bool :=
  t.kind == .done

def isReserved : Bool :=
  t.kind == .word && reservedWords.contains t.text

/-- A word that has no meaning of its own anywhere. -/
def isPlainName : Bool :=
  t.kind == .word && !isKeyword t.text

/-- A word that may be a name everywhere. -/
def isName : Bool :=
  t.kind == .word && !reservedWords.contains t.text

/-- A word that may be a name somewhere. -/
def isBindingName : Bool :=
  t.isName || t.isWord "await" || t.isWord "yield"

def isLiteral : Bool :=
  t.kind == .string || t.kind == .number || t.kind == .regex
    || t.isWord "null" || t.isWord "true" || t.isWord "false"

/-- Whether a property name other than a computed one can start so. -/
def isPropertyName : Bool :=
  t.kind == .word || t.kind == .string || t.kind == .number

/-- Whether a member's name can start so. -/
def isMemberName : Bool :=
  t.isPropertyName || t.kind == .privateName || t.isMark "["

def isTemplate : Bool :=
  match t.kind with
  | .chunk first _ => first
  | _ => false

def isAssignment : Bool :=
  t.kind == .mark && assignmentMarks.contains t.text

/-- How tightly an operator with two operands binds; nothing binds looser than 1. -/
def precedence? : Option Nat :=
  match t.kind with
  | .mark =>
    if t.text == "??" then some 1
    else if t.text == "||" then some 2
    else if t.text == "&&" then some 3
    else if t.text == "|" then some 4
    else if t.text == "^" then some 5
    else if t.text == "&" then some 6
    else if ["==", "!=", "===", "!=="].contains t.text then some 7
    else if ["<", ">", "<=", ">="].contains t.text then some 8
    else if ["<<", ">>", ">>>"].contains t.text then some 9
    else if ["+", "-"].contains t.text then some 10
    else if ["*", "/", "%"].contains t.text then some 11
    else if t.text == "**" then some 12
    else none
  | .word => if ["in", "instanceof", "as", "satisfies"].contains t.text then some 8 else none
  | _ => none

/-- Whether the token is an operator on two values that are both evaluated. -/
def isBinaryOperator : Bool :=
  match t.precedence? with
  | some n => 4 ≤ n && !t.isWord "as" && !t.isWord "satisfies"
  | none => false

/-- Whether the token can only go on with an expression that an `await` or a `yield` starts. -/
def followsKeyword : Bool :=
  !t.isBinaryOperator && (t.isLiteral || t.kind == .word)

def isPrefixOperator : Bool :=
  t.isMark "+" || t.isMark "-" || t.isMark "!" || t.isMark "~"
    || t.isWord "typeof" || t.isWord "void" || t.isWord "delete"

def isUpdateOperator : Bool :=
  t.isMark "++" || t.isMark "--"

/-- Whether what a modifier belongs to can start so. -/
def followsModifier : Bool :=
  t.isMemberName || t.isMark "\x7b" || t.isMark "*" || t.isMark "..."

end Token

end LinkSurvey.Script
