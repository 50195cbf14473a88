import LinkSurvey.Script.Numeral
import LinkSurvey.Script.Token

/-!
Tokens from text, one at a time. Which token comes next depends on where the reader stands: a slash
may start a regular expression, a brace may end the hole of a template, and text between tags has no
tokens of its own. So there is a function for each such place, and each gives the token with the text
after it.
-/

namespace LinkSurvey.Script

/-- Whether a text is read as a module or as a classic script, which knows two more kinds of comment. -/
inductive Dialect where
  | module
  | classic
  deriving DecidableEq, Repr

structure Comment where
  isBlock : Bool
  /-- The text from the comment's opening on. -/
  text : List Char
  deriving DecidableEq, Repr

/-- A token and what follows it. -/
structure Lexeme where
  token : Token
  rest : List Char
  faults : List Fault := []
  /-- The first comment before the token. -/
  comment : Option Comment := none
  deriving Repr

namespace Lexer

/-! ### Blanks and comments -/

structure Gap where
  rest : List Char
  lineBreak : Bool
  faults : List Fault
  comment : Option Comment
  deriving Repr

/-- Where in a gap between tokens a character stands. -/
inductive Place where
  | blank
  | lineComment
  | blockComment

/-- Skips blanks and comments. -/
def gap (d : Dialect) (place : Place) (lineBreak : Bool) (comment : Option Comment)
    (cs : List Char) : Gap :=
  match place, cs with
  | .blockComment, [] => ⟨[], lineBreak, [.unterminatedComment], comment⟩
  | .blockComment, '*' :: '/' :: rest => gap d .blank lineBreak comment rest
  | .blockComment, c :: rest => gap d .blockComment (lineBreak || isLineEnd c) comment rest
  | .lineComment, [] => ⟨[], lineBreak, [], comment⟩
  | .lineComment, c :: rest =>
    if isLineEnd c then gap d .blank true comment rest else gap d .lineComment lineBreak comment rest
  | .blank, [] => ⟨[], lineBreak, [], comment⟩
  | .blank, '/' :: '/' :: rest =>
    gap d .lineComment lineBreak (comment <|> some ⟨false, rest⟩) rest
  | .blank, '/' :: '*' :: rest =>
    gap d .blockComment lineBreak (comment <|> some ⟨true, rest⟩) rest
  | .blank, '<' :: '!' :: '-' :: '-' :: rest =>
    if d = .classic then gap d .lineComment lineBreak (comment <|> some ⟨false, rest⟩) rest
    else ⟨'<' :: '!' :: '-' :: '-' :: rest, lineBreak, [], comment⟩
  | .blank, '-' :: '-' :: '>' :: rest =>
    if d = .classic && lineBreak then
      gap d .lineComment lineBreak (comment <|> some ⟨false, rest⟩) rest
    else ⟨'-' :: '-' :: '>' :: rest, lineBreak, [], comment⟩
  | .blank, c :: rest =>
    if isLineEnd c then gap d .blank true comment rest
    else if isSpace c then gap d .blank lineBreak comment rest
    else ⟨c :: rest, lineBreak, [], comment⟩

/-! ### Words -/

structure Spelling where
  text : List Char
  rest : List Char
  faults : List Fault
  escaped : Bool
  deriving Repr

/-- Reads an escape in a word after its backslash. Only a character that may stand there counts. -/
def wordEscape (isAllowed : Char → Bool) : List Char → Option Char × List Char
  | 'u' :: cs =>
    match unicodeEscape cs with
    | (some (.single n), rest) =>
      (if n.isValidChar && isAllowed (Char.ofNat n) then some (Char.ofNat n) else none, rest)
    | (_, rest) => (none, rest)
  | _ :: cs => (none, cs)
  | [] => (none, [])

theorem wordEscape_length_le (isAllowed : Char → Bool) (cs : List Char) :
    (wordEscape isAllowed cs).2.length ≤ cs.length := by
  unfold wordEscape
  split
  · rename_i cs
    have := unicodeEscape_length_le cs
    split <;> simp_all <;> omega
  all_goals simp

/-- Reads on in a word; `text` is what has been read, last character first. -/
def wordFrom (text : List Char) (faults : List Fault) (escaped : Bool) : List Char → Spelling
  | [] => ⟨text.reverse, [], faults, escaped⟩
  | c :: cs =>
    if c == '\\' then
      let e := wordEscape (if text.isEmpty && faults.isEmpty then isNameStart else isNamePart) cs
      have := wordEscape_length_le (if text.isEmpty && faults.isEmpty then isNameStart else isNamePart) cs
      match e.1 with
      | some letter => wordFrom (letter :: text) faults true e.2
      | none => wordFrom text (.malformedEscape :: faults) true e.2
    else if isNamePart c then wordFrom (c :: text) faults escaped cs
    else ⟨text.reverse, c :: cs, faults, escaped⟩
termination_by cs => cs.length
decreasing_by all_goals simp_all; try omega

def word (kind : Token.Kind) (lineBreak : Bool) (cs : List Char) : Lexeme :=
  let w := wordFrom [] [] false cs
  ⟨⟨kind, String.ofList w.text, .cooked "", lineBreak, w.escaped, true⟩, w.rest, w.faults, none⟩

/-! ### Strings and templates -/

/-- Text up to a closing character, or nothing if it does not come. -/
structure Quoted where
  text : List Char
  rest : List Char
  faults : List Fault
  isClosed : Bool := true
  deriving Repr

/-- Reads on in a string; `text` is what has been read, last character first. -/
def stringFrom (quote : Char) (text : List Char) (faults : List Fault) : List Char → Quoted
  | [] => ⟨[], [], .unterminatedString :: faults, false⟩
  | c :: cs =>
    if c == quote then ⟨text.reverse, cs, faults, true⟩
    else if c == '\\' then
      let e := escape false cs
      have := escape_length_le false cs
      stringFrom quote (e.text.reverse ++ text)
        (if e.wellFormed then faults else .malformedEscape :: faults) e.rest
    else if c == '\n' || c == '\r' then ⟨[], cs, .unterminatedString :: faults, false⟩
    else stringFrom quote (c :: text) faults cs
termination_by cs => cs.length
decreasing_by all_goals simp_all; try omega

def string (lineBreak : Bool) (quote : Char) (cs : List Char) : Lexeme :=
  let s := stringFrom quote [] [] cs
  ⟨⟨if s.isClosed then .string else .unknown, String.ofList s.text, .cooked "", lineBreak, false, true⟩,
    s.rest, s.faults, none⟩

/-- How a chunk of a template ends. -/
inductive ChunkEnd where
  /-- With the template. -/
  | tick
  /-- With a hole. -/
  | hole
  | missing
  deriving DecidableEq, Repr

structure Chunk where
  text : List Char
  rest : List Char
  wellFormed : Bool
  ending : ChunkEnd
  deriving Repr

/-- Reads on in a template; `text` is what has been read, last character first. -/
def chunkFrom (text : List Char) (wellFormed : Bool) : List Char → Chunk
  | [] => ⟨[], [], wellFormed, .missing⟩
  | '`' :: cs => ⟨text.reverse, cs, wellFormed, .tick⟩
  | '$' :: '\x7b' :: cs => ⟨text.reverse, cs, wellFormed, .hole⟩
  | c :: cs =>
    if c == '\\' then
      let e := escape true cs
      have := escape_length_le true cs
      chunkFrom (e.text.reverse ++ text) (wellFormed && e.wellFormed) e.rest
    else if c == '\r' then
      have := afterReturn_length_le cs
      chunkFrom ('\n' :: text) wellFormed (afterReturn cs)
    else chunkFrom (c :: text) wellFormed cs
termination_by cs => cs.length
decreasing_by all_goals simp_all; try omega

/-- Reads a chunk of a template from behind what opens it. -/
def chunk (first : Bool) (lineBreak : Bool) (cs : List Char) : Lexeme :=
  let c := chunkFrom [] true cs
  let written := match c.ending with
    | .hole => 2
    | _ => 1
  let quasi : Quasi :=
    if c.wellFormed then .cooked (String.ofList c.text)
    else .raw (String.ofList (cs.take (cs.length - c.rest.length - written)))
  match c.ending with
  | .missing => ⟨⟨.unknown, "", quasi, lineBreak, false, true⟩, [], [.unterminatedTemplate], none⟩
  | .tick => ⟨⟨.chunk first true, "", quasi, lineBreak, false, true⟩, c.rest, [], none⟩
  | .hole => ⟨⟨.chunk first false, "", quasi, lineBreak, false, true⟩, c.rest, [], none⟩

/-! ### Tokens -/

/-- The marks, longer ones before their beginnings. A greater-than sign is a mark of its own, since
it may end a tag; `angle` joins it with what follows where it is an operator. -/
def marks : List String := [
  "...", "===", "!==", "**=", "<<=", "&&=", "||=", "??=",
  "=>", "==", "!=", "**", "*=", "++", "+=", "--", "-=", "<<", "<=", "&&", "&=", "||", "|=", "^=",
  "/=", "%=", "??", "?.",
  "\x7b", "\x7d", "(", ")", "[", "]", ";", ",", "<", ">", "=", "+", "-", "*", "/", "%", "&", "|",
  "^", "!", "~", "?", ":", ".", "@"]

def mark (lineBreak : Bool) (spelling : String) (rest : List Char) : Lexeme :=
  ⟨⟨.mark, spelling, .cooked "", lineBreak, false, true⟩, rest, [], none⟩

def unknown (lineBreak : Bool) (fault : Fault) (rest : List Char) : Lexeme :=
  ⟨⟨.unknown, "", .cooked "", lineBreak, false, true⟩, rest, [fault], none⟩

def number (lineBreak : Bool) (n : Numeral) : Lexeme :=
  ⟨⟨if n.isToken then .number else .unknown, "", .cooked "", lineBreak, false, n.hasValue⟩,
    n.rest, n.faults, none⟩

/-- The longest mark that a text starts with. -/
def mark? (cs : List Char) : Option String :=
  marks.find? fun m => m.toList.isPrefixOf cs

/-- Reads a private name from behind its sign. -/
def privateName (lineBreak : Bool) (cs : List Char) : Lexeme :=
  match cs with
  | [] => unknown lineBreak .unexpectedEnd []
  | c :: rest =>
    if isNameStart c || c == '\\' then word .privateName lineBreak cs
    else unknown lineBreak .unknownCharacter rest

/-- Reads a token that starts with the first character. -/
def token (lineBreak : Bool) : List Char → Lexeme
  | [] => ⟨⟨.done, "", .cooked "", lineBreak, false, true⟩, [], [], none⟩
  | c :: cs =>
    if isNameStart c || c == '\\' then word .word lineBreak (c :: cs)
    else if c == '"' || c == '\'' then string lineBreak c cs
    else if c.isDigit then number lineBreak (.afterFirst c cs)
    else if c == '.' && startsWithDigit cs then number lineBreak (.fraction [] cs)
    else if c == '`' then chunk true lineBreak cs
    else if c == '#' then privateName lineBreak cs
    else if c == '?' && cs.head? == some '.' && startsWithDigit (cs.drop 1) then mark lineBreak "?" cs
    else
      match mark? (c :: cs) with
      | some m => mark lineBreak m ((c :: cs).drop m.length)
      | none => unknown lineBreak .unknownCharacter cs

/-- Skips a gap and reads a token. The start of a text counts as the start of a line. -/
def next (d : Dialect) (lineBreak : Bool) (cs : List Char) : Lexeme :=
  let g := gap d .blank lineBreak none cs
  let l := token g.lineBreak g.rest
  ⟨l.token, l.rest, l.faults ++ g.faults, g.comment⟩

/-! ### Tokens of other places -/

/-- Joins a greater-than sign with what follows it. -/
def angle (lineBreak : Bool) : List Char → Lexeme
  | '>' :: '>' :: '=' :: cs => mark lineBreak ">>>=" cs
  | '>' :: '>' :: cs => mark lineBreak ">>>" cs
  | '>' :: '=' :: cs => mark lineBreak ">>=" cs
  | '>' :: cs => mark lineBreak ">>" cs
  | '=' :: cs => mark lineBreak ">=" cs
  | cs => mark lineBreak ">" cs

/-- What follows the slash that closes a regular expression. A slash within brackets closes none. -/
def regexBody (isEscaped inBrackets : Bool) : List Char → Option (List Char)
  | [] => none
  | c :: cs =>
    if isLineEnd c then none
    else if isEscaped then regexBody false inBrackets cs
    else if c == '/' && !inBrackets then some cs
    else if c == '[' then regexBody false true cs
    else if c == '\\' then regexBody true inBrackets cs
    else if c == ']' then regexBody false false cs
    else regexBody false inBrackets cs

def regexFlags : List Char := ['g', 'i', 'm', 's', 'u', 'y', 'd', 'v']

/-- Reads the flags of a regular expression; `seen` are those before. -/
def flags (seen : List Char) (faults : List Fault) : List Char → List Char × List Fault
  | [] => ([], faults)
  | c :: cs =>
    if c.isAlphanum || c == '_' || c == '$' then
      if !regexFlags.contains c then flags seen (.unknownFlag :: faults) cs
      else if seen.contains c then flags seen (.repeatedFlag :: faults) cs
      else flags (c :: seen) faults cs
    else (c :: cs, faults)

/-- Reads a regular expression from behind its opening slash. -/
def regex? (lineBreak : Bool) (cs : List Char) : Option Lexeme :=
  (regexBody false false cs).map fun rest =>
    match flags [] [] rest with
    | (rest, faults) => ⟨⟨.regex, "", .cooked "", lineBreak, false, true⟩, rest, faults, none⟩

/-- Reads what stands between tags: a tag, a hole or text. -/
def markup : List Char → Lexeme
  | [] => ⟨⟨.done, "", .cooked "", false, false, true⟩, [], [], none⟩
  | '<' :: cs => mark false "<" cs
  | '\x7b' :: cs => mark false "\x7b" cs
  | cs =>
    ⟨⟨.markupText, "", .cooked "", false, false, true⟩,
      cs.dropWhile fun c => c != '<' && c != '\x7b', [], none⟩

/-- Reads the value of an attribute, in which nothing is escaped. -/
def attributeValue (d : Dialect) (cs : List Char) : Lexeme :=
  let g := gap d .blank false none cs
  match g.rest with
  | c :: rest =>
    if c == '"' || c == '\'' then
      match rest.dropWhile (· != c) with
      | _ :: after =>
        ⟨⟨.string, String.ofList (rest.takeWhile (· != c)), .cooked "", g.lineBreak, false, true⟩, after,
          g.faults, g.comment⟩
      | [] => ⟨⟨.unknown, "", .cooked "", g.lineBreak, false, true⟩, [],
          .unterminatedString :: g.faults, g.comment⟩
    else next d false cs
  | [] => next d false cs

/-- What follows a name between tags, which may go on with hyphens after a word. -/
def hyphenated (cs : List Char) : List Char × List Char :=
  if cs.head? == some '-' then cs.span fun c => c == '-' || isNamePart c else ([], cs)

end Lexer

end LinkSurvey.Script
