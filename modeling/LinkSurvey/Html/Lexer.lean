import LinkSurvey.Html.Builder.Dispatch
import LinkSurvey.Html.Reference

/-!
Markup, character by character. What has been cut off goes to the tree builder at once, because what
it makes of a tag decides how the text after it is read.

Text is handed on in runs. A run ends at a line feed, at a character with a meaning of its own, and
where characters had to be looked at twice.
-/

namespace LinkSurvey.Html

inductive LexState where
  | data
  | raw (kind : RawKind)
  | plain
  | tagOpen
  | endTagOpen
  | tagName
  /-- After `<` in text of this kind. -/
  | rawLess (kind : RawKind)
  | rawEndOpen (kind : RawKind)
  | rawEndName (kind : RawKind)
  /-- After `<!` in a script. -/
  | escapeStart
  | escapeStartDash
  /-- In the name of a tag that may start a script in a comment of a script. -/
  | doubleStart
  | doubleEnd
  | escapedDash (kind : RawKind)
  | escapedDashDash (kind : RawKind)
  | beforeName
  | name
  | afterName
  | beforeValue
  /-- In the value of an attribute, between these quotes. -/
  | value (quote : Option Char)
  | afterValue
  | selfClosing
  /-- After `<!` and this text, last character first. -/
  | declaration (seen : Text)
  | bogusComment
  | commentStart
  | commentStartDash
  | comment
  | commentLess
  | commentLessBang
  | commentLessBangDash
  | commentLessBangDashDash
  | commentEndDash
  | commentEnd
  | commentEndBang
  | doctype
  | beforeDoctypeName
  | doctypeName
  /-- After the name and this text, last character first. -/
  | afterDoctypeName (seen : Text)
  | afterKeyword (isPublic : Bool)
  | beforeIdentifier (isPublic : Bool)
  | identifier (isPublic : Bool) (quote : Char)
  | afterIdentifier (isPublic : Bool)
  | betweenIdentifiers
  | bogusDoctype
  | section
  | sectionBracket
  | sectionEnd
  deriving DecidableEq, Repr

/-- Where a character reference is, after its `&`. -/
inductive RefState where
  | start
  | hash
  /-- `marker` is the letter that makes a number hexadecimal. -/
  | number (marker : Option Char) (value : Nat) (seen : Bool)
  /-- What has been read, last character first, and what the longest name in it means, with its
  length. -/
  | named (seen : Text) (best : Option (Text × Nat))
  /-- No name starts like this. -/
  | unknown (seen : Text)
  deriving DecidableEq, Repr

/-- What came before decides how the next character is taken. -/
inductive Before where
  | nothing
  /-- A carriage return, which was read as a line feed. -/
  | carriageReturn
  /-- The next character is a run of its own. -/
  | lookahead
  /-- A named reference, which looks one character ahead. -/
  | reference
  deriving DecidableEq, Repr

structure Lexer where
  state : LexState := .data
  reference : Option RefState := none
  before : Before := .nothing
  builder : Builder := {}
  /-- Text not handed on yet, last character first. So are all texts below. -/
  run : Text := []
  tagName : Text := []
  isEnd : Bool := false
  isSelfClosing : Bool := false
  attributes : Attributes := []
  attributeName : Text := []
  attributeValue : Text := []
  /-- Text that may turn out to be something else. -/
  held : Text := []
  lastStart : Option Text := none
  declared : Doctype := {}

namespace Lexer

def fail (m : Lexer) : Lexer :=
  { m with builder := { m.builder with errors := m.builder.errors + 1 } }

def enter (m : Lexer) (state : LexState) : Lexer :=
  { m with state }

/-- Hand on a token whose consequences are the builder's alone. -/
def emit (m : Lexer) (t : Token) : Lexer :=
  { m with builder := ((Build.take t).run m.builder).2 }

/-- Hand on the text read so far. -/
def flush (m : Lexer) : Lexer :=
  if m.run.isEmpty then m
  else ({ m with run := [] }).emit (.text .unsplit m.run.reverse)

/-- Hand on text as a run of its own. -/
def emitText (m : Lexer) (text : Text) : Lexer :=
  m.flush.emit (.text .unsplit text)

def emitNull (m : Lexer) : Lexer :=
  m.flush.emit .null

def emitHeld (m : Lexer) : Lexer :=
  { m.emitText m.held.reverse with held := [] }

/-- Close the attribute that is being read. A second one of the same name is dropped. -/
def finishAttribute (m : Lexer) : Lexer :=
  if m.attributeName.isEmpty then m
  else
    let name := String.ofList m.attributeName.reverse
    let cleared := { m with attributeName := [], attributeValue := [] }
    if (m.attributes.lookup name).isSome then cleared.fail
    else { cleared with attributes := m.attributes ++ [(name, m.attributeValue.reverse)] }

def startAttribute (m : Lexer) (c : Char) : Lexer :=
  { m.finishAttribute with attributeName := [c], state := .name }

def startTag (m : Lexer) (isEnd : Bool) (c : Char) : Lexer :=
  { m with tagName := [c], isEnd, isSelfClosing := false, attributes := [] }

/-- Hand on the tag that has been read, and go on as the builder says. -/
def emitTag (m : Lexer) : Lexer :=
  let m := { m.finishAttribute with state := .data }
  let tag : Tag := ⟨String.ofList m.tagName.reverse, m.attributes, m.isSelfClosing⟩
  if m.isEnd then
    let m := if m.attributes.isEmpty then m else m.fail
    let m := if m.isSelfClosing then m.fail else m
    m.emit (.stop tag)
  else
    let (outcome, builder) := (Build.take (.start tag)).run m.builder
    let m := { m with lastStart := some m.tagName, builder }
    match outcome with
    | some (.rawText kind) => m.enter (.raw kind)
    | some .plainText => m.enter .plain
    | _ => m

def emitComment (m : Lexer) : Lexer :=
  (m.emit .comment).enter .data

def emitDoctype (m : Lexer) : Lexer :=
  (m.emit (.doctype { m.declared with
    name := m.declared.name.map List.reverse
    publicId := m.declared.publicId.map List.reverse
    systemId := m.declared.systemId.map List.reverse })).enter .data

def forceQuirks (m : Lexer) : Lexer :=
  { m with declared := { m.declared with forceQuirks := true } }

def pushDoctypeName (m : Lexer) (c : Char) : Lexer :=
  { m with declared := { m.declared with name := some (c :: m.declared.name.getD []) } }

def clearIdentifier (m : Lexer) (isPublic : Bool) : Lexer :=
  { m with declared :=
    if isPublic then { m.declared with publicId := some [] }
    else { m.declared with systemId := some [] } }

def pushIdentifier (m : Lexer) (isPublic : Bool) (c : Char) : Lexer :=
  { m with declared :=
    if isPublic then { m.declared with publicId := some (c :: m.declared.publicId.getD []) }
    else { m.declared with systemId := some (c :: m.declared.systemId.getD []) } }

/-- Whether the end tag being read closes the text that it stands in. -/
def isOwnEnd (m : Lexer) : Bool :=
  m.isEnd && m.lastStart == some m.tagName

def pushText (alone : Bool) (m : Lexer) (c : Char) : Lexer :=
  if alone || c == '\n' then m.emitText [c] else { m with run := c :: m.run }

def startReference (m : Lexer) : Lexer :=
  { m with reference := some .start }

def isEscaped (kind : RawKind) : Bool :=
  kind = .scriptEscaped || kind = .scriptDoubleEscaped

/-- Text that only an end tag ends. -/
def rawStep (kind : RawKind) (alone : Bool) (m : Lexer) (c : Char) : Lexer :=
  if c = '\x00' then m.fail.emitText ['\uFFFD']
  else if c = '<' then
    if kind = .scriptDoubleEscaped then (m.emitText ['<']).enter (.rawLess kind)
    else m.flush.enter (.rawLess kind)
  else if c = '&' && kind = .escapable then m.flush.startReference
  else if c = '-' && isEscaped kind then (m.emitText ['-']).enter (.escapedDash kind)
  else m.pushText alone c

/-- After a hyphen, or after two or more, in a comment of a script. -/
def dashStep (kind : RawKind) (double : Bool) (m : Lexer) (c : Char) : Lexer :=
  if c = '-' then
    (m.emitText ['-']).enter (.escapedDashDash kind)
  else if c = '<' then
    (if kind = .scriptDoubleEscaped then m.emitText ['<'] else m).enter (.rawLess kind)
  else if c = '>' && double then (m.emitText ['>']).enter (.raw .script)
  else if c = '\x00' then (m.fail.emitText ['\uFFFD']).enter (.raw kind)
  else (m.emitText [c]).enter (.raw kind)

/-- Between attributes. -/
def attributeStep (allowEquals : Bool) (m : Lexer) (c : Char) : Lexer :=
  if isSpace c then m
  else if c = '/' then m.enter .selfClosing
  else if c = '>' then m.emitTag
  else if c = '=' && allowEquals then m.enter .beforeValue
  else if c = '\x00' then m.fail.startAttribute '\uFFFD'
  else
    let m := if c = '"' || c = '\'' || c = '<' || c = '=' then m.fail else m
    m.startAttribute c.toLower

def nameStep (m : Lexer) (c : Char) : Lexer :=
  if isSpace c then m.enter .afterName
  else if c = '/' then m.enter .selfClosing
  else if c = '=' then m.enter .beforeValue
  else if c = '>' then m.emitTag
  else if c = '\x00' then { m.fail with attributeName := '\uFFFD' :: m.attributeName }
  else
    let m := if c = '"' || c = '\'' || c = '<' then m.fail else m
    { m with attributeName := c.toLower :: m.attributeName }

def pushValue (m : Lexer) (c : Char) : Lexer :=
  { m with attributeValue := c :: m.attributeValue }

def valueStep (quote : Option Char) (alone : Bool) (m : Lexer) (c : Char) : Lexer :=
  if some c = quote then m.enter .afterValue
  else if c = '&' then m.startReference
  else if c = '\x00' then m.fail.pushValue '\uFFFD'
  else if quote.isNone && isSpace c then m.enter .beforeName
  else if quote.isNone && c = '>' then m.emitTag
  else if quote.isNone && alone && (c = '"' || c = '\'' || c = '<' || c = '=' || c = '`') then
    m.fail.pushValue c
  else m.pushValue c

def commentStep (m : Lexer) (c : Char) : Lexer :=
  if c = '<' then m.enter .commentLess
  else if c = '-' then m.enter .commentEndDash
  else if c = '\x00' then m.fail
  else m

def commentEndDashStep (m : Lexer) (c : Char) : Lexer :=
  if c = '-' then m.enter .commentEnd
  else if c = '\x00' then m.fail.enter .comment
  else m.enter .comment

def commentEndStep (m : Lexer) (c : Char) : Lexer :=
  if c = '>' then m.emitComment
  else if c = '!' then m.enter .commentEndBang
  else if c = '-' then m
  else (m.enter .comment).commentStep c

def bogusCommentStep (m : Lexer) (c : Char) : Lexer :=
  if c = '>' then m.emitComment
  else if c = '\x00' then m.fail
  else m

def beforeDoctypeNameStep (m : Lexer) (c : Char) : Lexer :=
  if isSpace c then m
  else if c = '>' then ({ m.fail with declared := { forceQuirks := true } }).emitDoctype
  else
    let m := if c = '\x00' then m.fail else m
    (({ m with declared := {} }).pushDoctypeName
      (if c = '\x00' then '\uFFFD' else c.toLower)).enter .doctypeName

def bogusDoctypeStep (m : Lexer) (c : Char) : Lexer :=
  if c = '>' then m.emitDoctype
  else if c = '\x00' then m.fail
  else m

/-- An identifier that starts with a quote, or something that does not belong there. -/
def quoteStep (isPublic : Bool) (m : Lexer) (c : Char) : Lexer :=
  if c = '"' || c = '\'' then (m.clearIdentifier isPublic).enter (.identifier isPublic c)
  else m.fail.forceQuirks.enter .bogusDoctype

/-- Whether `text`, without regard to case if `anyCase`, is a proper start of `word`. -/
def isStart (anyCase : Bool) (text : Text) (word : String) : Bool :=
  (if anyCase then text.map Char.toLower else text).isPrefixOf word.toList

/-- After the name of a document type: a keyword, which is not known before it is complete. -/
def afterDoctypeNameStep (seen : Text) (m : Lexer) (c : Char) : Lexer :=
  let word := (c :: seen).reverse.map Char.toLower
  if word = "public".toList then m.enter (.afterKeyword true)
  else if word = "system".toList then m.enter (.afterKeyword false)
  else if isStart true word "public" || isStart true word "system" then
    m.enter (.afterDoctypeName (c :: seen))
  else if seen.isEmpty then
    if isSpace c then m
    else if c = '>' then m.emitDoctype
    else m.fail.forceQuirks.enter .bogusDoctype
  else (m.fail.forceQuirks.enter .bogusDoctype).bogusDoctypeStep c

/-- After `<!`: a comment, a document type, or, in drawings and formulas, literal text. -/
def declarationStep (seen : Text) (m : Lexer) (c : Char) : Lexer :=
  let text := (c :: seen).reverse
  let literal := Build.currentIsForeign m.builder
  if text = ['-', '-'] then m.enter .commentStart
  else if text.map Char.toLower = "doctype".toList then m.enter .doctype
  else if literal && text = "[CDATA[".toList then ({ m with held := [] }).enter .section
  else if isStart false text "--" || isStart true text "doctype"
      || (literal && isStart false text "[CDATA[") then m.enter (.declaration (c :: seen))
  else (m.fail.enter .bogusComment).bogusCommentStep c

def sectionStep (m : Lexer) (c : Char) : Lexer :=
  if c = ']' then m.enter .sectionBracket
  else if c = '\x00' then m.emitHeld.emitNull
  else { m with held := c :: m.held }

/-- Whether the name held back is that of a script. -/
def holdsScript (m : Lexer) : Bool :=
  m.held.reverse == "script".toList

/-- In a name that, if it is that of a script, changes how a script reads on. -/
def scriptNameStep (whenScript otherwise : RawKind) (stay : RawKind) (m : Lexer) (c : Char) :
    Lexer :=
  if isSpace c || c = '/' || c = '>' then
    (m.emitText [c]).enter (.raw (if m.holdsScript then whenScript else otherwise))
  else if c.isAlpha then { m.emitText [c] with held := c.toLower :: m.held }
  else rawStep stay true (m.enter (.raw stay)) c

def rawLessStep (kind : RawKind) (m : Lexer) (c : Char) : Lexer :=
  if kind = .scriptDoubleEscaped then
    if c = '/' then ({ m with held := [] }.emitText ['/']).enter .doubleEnd
    else rawStep kind true (m.enter (.raw kind)) c
  else if c = '/' then ({ m with held := [] }).enter (.rawEndOpen kind)
  else if kind = .script && c = '!' then ((m.emitText ['<']).emitText ['!']).enter .escapeStart
  else if kind = .scriptEscaped && c.isAlpha then
    { (m.emitText ['<']).emitText [c] with held := [c.toLower], state := .doubleStart }
  else rawStep kind true ((m.emitText ['<']).enter (.raw kind)) c

def rawEndOpenStep (kind : RawKind) (m : Lexer) (c : Char) : Lexer :=
  if c.isAlpha then
    { m.startTag true c.toLower with held := c :: m.held, state := .rawEndName kind }
  else rawStep kind true (((m.emitText ['<']).emitText ['/']).enter (.raw kind)) c

def rawEndNameStep (kind : RawKind) (m : Lexer) (c : Char) : Lexer :=
  if m.isOwnEnd && isSpace c then ({ m with held := [] }).enter .beforeName
  else if m.isOwnEnd && c = '/' then ({ m with held := [] }).enter .selfClosing
  else if m.isOwnEnd && c = '>' then ({ m with held := [] }).emitTag
  else if c.isAlpha then { m with tagName := c.toLower :: m.tagName, held := c :: m.held }
  else
    let m := { m with tagName := [], attributes := [], isSelfClosing := false }
    rawStep kind true ((((m.emitText ['<']).emitText ['/']).emitHeld).enter (.raw kind)) c

def dataStep (alone : Bool) (m : Lexer) (c : Char) : Lexer :=
  if c = '\x00' then m.fail.emitNull
  else if c = '&' then m.flush.startReference
  else if c = '<' then m.flush.enter .tagOpen
  else m.pushText alone c

def tagOpenStep (m : Lexer) (c : Char) : Lexer :=
  if c = '!' then m.enter (.declaration [])
  else if c = '/' then m.enter .endTagOpen
  else if c = '?' then m.fail.enter .bogusComment
  else if c.isAlpha then (m.startTag false c.toLower).enter .tagName
  else dataStep true ((m.fail.emitText ['<']).enter .data) c

def tagNameStep (m : Lexer) (c : Char) : Lexer :=
  if isSpace c then m.enter .beforeName
  else if c = '/' then m.enter .selfClosing
  else if c = '>' then m.emitTag
  else if c = '\x00' then { m.fail with tagName := '\uFFFD' :: m.tagName }
  else { m with tagName := c.toLower :: m.tagName }

/-- Take in a character that is no part of a reference. If it is `alone` it is a run of its own. -/
def plainStep (alone : Bool) (m : Lexer) (c : Char) : Lexer :=
  match m.state with
  | .data => m.dataStep alone c
  | .raw kind => m.rawStep kind alone c
  | .plain => if c = '\x00' then m.fail.emitText ['\uFFFD'] else m.pushText alone c
  | .tagOpen => m.tagOpenStep c
  | .endTagOpen =>
    if c = '>' then m.fail.enter .data
    else if c.isAlpha then (m.startTag true c.toLower).enter .tagName
    else (m.fail.enter .bogusComment).bogusCommentStep c
  | .tagName => m.tagNameStep c
  | .rawLess kind => m.rawLessStep kind c
  | .rawEndOpen kind => m.rawEndOpenStep kind c
  | .rawEndName kind => m.rawEndNameStep kind c
  | .escapeStart =>
    if c = '-' then (m.emitText ['-']).enter .escapeStartDash
    else rawStep .script true (m.enter (.raw .script)) c
  | .escapeStartDash =>
    if c = '-' then (m.emitText ['-']).enter (.escapedDashDash .scriptEscaped)
    else rawStep .script true (m.enter (.raw .script)) c
  | .doubleStart => m.scriptNameStep .scriptDoubleEscaped .scriptEscaped .scriptEscaped c
  | .doubleEnd => m.scriptNameStep .scriptEscaped .scriptDoubleEscaped .scriptDoubleEscaped c
  | .escapedDash kind => m.dashStep kind false c
  | .escapedDashDash kind => m.dashStep kind true c
  | .beforeName => m.attributeStep false c
  | .name => m.nameStep c
  | .afterName => m.attributeStep true c
  | .beforeValue =>
    if isSpace c then m
    else if c = '"' || c = '\'' then m.enter (.value (some c))
    else if c = '>' then m.fail.emitTag
    else valueStep none false (m.enter (.value none)) c
  | .value quote => m.valueStep quote alone c
  | .afterValue =>
    if isSpace c then m.enter .beforeName
    else if c = '/' then m.enter .selfClosing
    else if c = '>' then m.emitTag
    else attributeStep false (m.fail.enter .beforeName) c
  | .selfClosing =>
    if c = '>' then ({ m with isSelfClosing := true }).emitTag
    else attributeStep false (m.fail.enter .beforeName) c
  | .declaration seen => m.declarationStep seen c
  | .bogusComment => m.bogusCommentStep c
  | .commentStart =>
    if c = '-' then m.enter .commentStartDash
    else if c = '>' then m.fail.emitComment
    else if c = '\x00' then m.fail.enter .comment
    else m.enter .comment
  | .commentStartDash =>
    if c = '-' then m.enter .commentEnd
    else if c = '>' then m.fail.emitComment
    else if c = '\x00' then m.fail.enter .comment
    else m.enter .comment
  | .comment => m.commentStep c
  | .commentLess =>
    if c = '!' then m.enter .commentLessBang
    else if c = '<' then m
    else (m.enter .comment).commentStep c
  | .commentLessBang =>
    if c = '-' then m.enter .commentLessBangDash else (m.enter .comment).commentStep c
  | .commentLessBangDash =>
    if c = '-' then m.enter .commentLessBangDashDash else m.commentEndDashStep c
  | .commentLessBangDashDash =>
    commentEndStep ((if c = '>' then m else m.fail).enter .commentEnd) c
  | .commentEndDash => m.commentEndDashStep c
  | .commentEnd => m.commentEndStep c
  | .commentEndBang =>
    if c = '-' then m.enter .commentEndDash
    else if c = '>' then m.fail.emitComment
    else if c = '\x00' then m.fail.enter .comment
    else m.enter .comment
  | .doctype =>
    if isSpace c then m.enter .beforeDoctypeName
    else beforeDoctypeNameStep ((if c = '>' then m else m.fail).enter .beforeDoctypeName) c
  | .beforeDoctypeName => m.beforeDoctypeNameStep c
  | .doctypeName =>
    if isSpace c then m.enter (.afterDoctypeName [])
    else if c = '>' then m.emitDoctype
    else if c = '\x00' then m.fail.pushDoctypeName '\uFFFD'
    else m.pushDoctypeName c.toLower
  | .afterDoctypeName seen => m.afterDoctypeNameStep seen c
  | .afterKeyword isPublic =>
    if isSpace c then m.enter (.beforeIdentifier isPublic)
    else if c = '>' then m.fail.forceQuirks.emitDoctype
    else if c = '"' || c = '\'' then m.fail.quoteStep isPublic c
    else m.quoteStep isPublic c
  | .beforeIdentifier isPublic =>
    if isSpace c then m
    else if c = '>' then m.fail.forceQuirks.emitDoctype
    else m.quoteStep isPublic c
  | .identifier isPublic quote =>
    if c = quote then m.enter (.afterIdentifier isPublic)
    else if c = '>' then m.fail.forceQuirks.emitDoctype
    else if c = '\x00' then m.fail.pushIdentifier isPublic '\uFFFD'
    else m.pushIdentifier isPublic c
  | .afterIdentifier true =>
    if isSpace c then m.enter .betweenIdentifiers
    else if c = '>' then m.emitDoctype
    else if c = '"' || c = '\'' then m.fail.quoteStep false c
    else m.quoteStep false c
  | .afterIdentifier false =>
    if isSpace c then m
    else if c = '>' then m.emitDoctype
    else m.fail.enter .bogusDoctype
  | .betweenIdentifiers =>
    if isSpace c then m
    else if c = '>' then m.emitDoctype
    else m.quoteStep false c
  | .bogusDoctype => m.bogusDoctypeStep c
  | .section => m.sectionStep c
  | .sectionBracket =>
    if c = ']' then m.enter .sectionEnd
    else sectionStep ({ m with held := ']' :: m.held, state := .section }) c
  | .sectionEnd =>
    if c = ']' then { m with held := ']' :: m.held }
    else if c = '>' then m.emitHeld.enter .data
    else sectionStep ({ m with held := ']' :: ']' :: m.held, state := .section }) c

/-! ### Line ends and references -/

/-- A line feed stands for each kind of line end. Where a character is looked at twice, the run it is
in ends with it. -/
def read (m : Lexer) (c : Char) : Lexer :=
  let take (alone : Bool) (m : Lexer) : Lexer :=
    if c = '\r' then plainStep alone { m with before := .carriageReturn } '\n'
    else plainStep alone m c
  match m.before with
  | .nothing => if m.state = .beforeValue && c = '\r' then m else take false m
  | .carriageReturn =>
    if c = '\n' then { m with before := .lookahead } else take true { m with before := .nothing }
  | .lookahead => take true { m with before := .nothing }
  | .reference =>
    if c = '\r' then { m with before := .lookahead } else take true { m with before := .nothing }

/-- Put characters into the text or attribute value that a reference stands in. -/
def putMeaning (m : Lexer) (text : Text) : Lexer :=
  match m.state with
  | .value _ => text.foldl pushValue m
  | _ => text.foldl (fun m c => m.emitText [c]) m

/-- End of a reference that means nothing: its `&` is text, and so is what has been read after it. -/
def giveUp (m : Lexer) (seen : Text) : Lexer :=
  (seen.foldl read ({ m with reference := none }.putMeaning ['&'])).flush

def inValue (m : Lexer) : Bool :=
  m.state matches .value _

/-- The quote, or the end of an unquoted value, that may follow an `&` directly. -/
def closing (m : Lexer) : Option Char :=
  match m.state with
  | .value (some q) => some q
  | .value none => some '>'
  | _ => none

/-- End of a name, with what has been read after the longest name known. In an attribute, a name
without semicolon that goes on like a word is no reference. -/
def finishNamed (m : Lexer) (seen : Text) (best : Text × Nat) : Lexer :=
  let all := seen.reverse
  let after := all.drop best.2
  if m.inValue && after.head?.any fun c => c = '=' || c.isAlphanum then m.giveUp all
  else (after.foldl read ({ m.fail with reference := none }.putMeaning best.1)).flush

/-- End of a number. -/
def finishNumber (m : Lexer) (value : Nat) : Lexer :=
  let (c, ok) := numbered value
  let m := if ok then m else m.fail
  { m with reference := none }.putMeaning [c]

def digit? (hex : Bool) (c : Char) : Option Nat :=
  if c.isDigit then some (c.toNat - 48)
  else if hex && 'a' ≤ c && c ≤ 'f' then some (c.toNat - 87)
  else if hex && 'A' ≤ c && c ≤ 'F' then some (c.toNat - 55)
  else none

/-- A number without digits is text. -/
def giveUpNumber (m : Lexer) (marker : Option Char) : Lexer :=
  m.fail.giveUp ('#' :: marker.toList)

/-- A character after the `#` of a reference, and after the marker of a hexadecimal number. -/
def numberStep (m : Lexer) (marker : Option Char) (value : Nat) (seen : Bool) (c : Char) : Lexer :=
  match digit? marker.isSome c with
  | some d =>
    let base := if marker.isSome then 16 else 10
    { m with reference := some (.number marker (min (value * base + d) 0x110000) true) }
  | none =>
    if !seen then (m.giveUpNumber marker).read c
    else if c = ';' then m.finishNumber value
    else (m.fail.finishNumber value).read c

/-- One more character of a name. A name that ends with a semicolon is complete. -/
def namedStep (m : Lexer) (seen : Text) (best : Option (Text × Nat)) (c : Char) : Lexer :=
  let lineEnd := c == '\r'
  let c := if lineEnd then '\n' else c
  let m := if lineEnd then { m with before := .carriageReturn } else m
  let text := (c :: seen).reverse
  if isNameStart text then
    let best := match meaning? text with
      | some meaning => some (meaning, text.length)
      | none => best
    if c = ';' then
      match best with
      | some (meaning, _) =>
        { m with reference := none, before := .reference }.putMeaning meaning
      | none => m.giveUp text
    else { m with reference := some (.named (c :: seen) best) }
  else
    match best with
    | some best => m.finishNamed (c :: seen) best
    | none =>
      if c.isAlphanum then { m with reference := some (.unknown (c :: seen)) }
      else (if c = ';' && !seen.isEmpty then m.fail else m).giveUp text

def unknownStep (m : Lexer) (seen : Text) (c : Char) : Lexer :=
  let lineEnd := c == '\r'
  let c := if lineEnd then '\n' else c
  let m := if lineEnd then { m with before := .carriageReturn } else m
  if c.isAlphanum then { m with reference := some (.unknown (c :: seen)) }
  else (if c = ';' then m.fail else m).giveUp (c :: seen).reverse

/-- Take in a character. -/
def step (m : Lexer) (c : Char) : Lexer :=
  match m.reference with
  | none => m.read c
  | some .start =>
    if c = '\t' || c = '\n' || c = '\x0c' || c = ' ' || c = '<' || c = '&' || some c = m.closing then
      (m.giveUp []).read c
    else if c = '#' then { m with reference := some .hash }
    else m.namedStep [] none c
  | some .hash =>
    if c = 'x' || c = 'X' then { m with reference := some (.number (some c) 0 false) }
    else m.numberStep none 0 false c
  | some (.number marker value seen) => m.numberStep marker value seen c
  | some (.named seen best) => m.namedStep seen best c
  | some (.unknown seen) => m.unknownStep seen c

/-- The end of the input in a reference. -/
def endReference (m : Lexer) : Lexer :=
  match m.reference with
  | none => m
  | some .start => m.giveUp []
  | some .hash => m.fail.giveUp ['#']
  | some (.number marker value seen) =>
    if seen then m.fail.finishNumber value else m.giveUpNumber marker
  | some (.named seen best) =>
    match best with
    | some best => m.finishNamed seen best
    | none => m.giveUp seen.reverse
  | some (.unknown seen) => m.giveUp seen.reverse

/-- The end of the input: what is unfinished is handed on as far as it counts. -/
def endState (m : Lexer) : Lexer :=
  match m.state with
  | .data | .plain => m
  | .raw kind => if isEscaped kind then m.fail else m
  | .tagName | .beforeName | .name | .afterName | .beforeValue | .value _ | .afterValue
  | .selfClosing | .escapedDash _ | .escapedDashDash _ | .doubleStart | .doubleEnd => m.fail
  | .tagOpen => m.fail.emitText ['<']
  | .endTagOpen => (m.fail.emitText ['<']).emitText ['/']
  | .rawLess kind =>
    if kind = .scriptDoubleEscaped then m.fail
    else
      let m := m.emitText ['<']
      if isEscaped kind then m.fail else m
  | .rawEndOpen kind =>
    let m := (m.emitText ['<']).emitText ['/']
    if isEscaped kind then m.fail else m
  | .rawEndName kind =>
    let m := ((m.emitText ['<']).emitText ['/']).emitHeld
    if isEscaped kind then m.fail else m
  | .escapeStart => m.fail
  | .escapeStartDash => m
  | .commentStart | .commentStartDash | .comment | .commentLess | .commentLessBang
  | .commentLessBangDash | .commentLessBangDashDash | .commentEndDash | .commentEnd
  | .commentEndBang => m.fail.emitComment
  | .declaration _ => m.fail.emitComment
  | .bogusComment => m.emitComment
  | .doctype | .beforeDoctypeName =>
    ({ m.fail with declared := { forceQuirks := true } }).emitDoctype
  | .doctypeName | .afterDoctypeName _ | .afterKeyword _ | .beforeIdentifier _ | .identifier _ _
  | .afterIdentifier _ | .betweenIdentifiers => m.fail.forceQuirks.emitDoctype
  | .bogusDoctype => m.emitDoctype
  | .section => m.emitHeld.fail
  | .sectionBracket => ({ m with held := ']' :: m.held }).emitHeld.fail
  | .sectionEnd => ({ m with held := ']' :: ']' :: m.held }).emitHeld.fail

def finish (m : Lexer) : Builder :=
  ((m.endReference.flush.endState).flush.emit .eof).builder

end Lexer

end LinkSurvey.Html
