import LinkSurvey.Html.Tree

/-!
What a tree builder knows: the tree so far, the elements that are still open, and where in a document
it is. Here are the questions it asks about open elements and the ways to insert and close them.
-/

namespace LinkSurvey.Html

inductive Mode where
  | initial
  | beforeHtml
  | beforeHead
  | inHead
  | afterHead
  | inBody
  | text
  | inTable
  | inTableText
  | inCaption
  | inColumnGroup
  | inTableBody
  | inRow
  | inCell
  | inSelect
  | inSelectInTable
  | inTemplate
  | afterBody
  | inFrameset
  | afterFrameset
  | afterAfterBody
  | afterAfterFrameset
  deriving DecidableEq, Repr

/-- An entry of the list of formatting elements that are opened again where they were cut off. -/
inductive Entry where
  | marker
  | element (node : NodeId) (tag : Tag)
  deriving DecidableEq, Repr

structure Builder where
  tree : Tree := {}
  mode : Mode := .initial
  /-- Where to go on after text. -/
  returnMode : Mode := .initial
  templateModes : List Mode := []
  /-- Text between table parts that has not been placed yet, last piece first. -/
  tableText : List (Blankness × Text) := []
  quirks : Bool := false
  /-- Open elements, innermost first. -/
  opened : List NodeId := []
  /-- Formatting elements, last one first. -/
  formatting : List Entry := []
  head : Option NodeId := none
  form : Option NodeId := none
  framesetOk : Bool := true
  /-- The next text loses a line feed in front. -/
  skipLineFeed : Bool := false
  /-- Insertions into a table go in front of it. -/
  fostering : Bool := false
  errors : Nat := 0

abbrev Build := StateM Builder

/-- What becomes of a token that a mode has looked at. -/
inductive Outcome where
  | done
  /-- Done, and a self-closing tag was expected. -/
  | closed
  /-- To be looked at again in another mode. -/
  | again (mode : Mode) (token : Token)
  /-- To be cut into blank and other runs first. -/
  | split (text : Text)
  /-- Done; what follows is text. -/
  | rawText (kind : RawKind)
  | plainText
  deriving Repr

namespace Build

def fail : Build Unit :=
  modify fun b => { b with errors := b.errors + 1 }

/-- An unexpected token, which is dropped. -/
def unexpected : Build Outcome := do
  fail
  return .done

def setMode (mode : Mode) : Build Unit :=
  modify fun b => { b with mode }

def spoilFrameset : Build Unit :=
  modify fun b => { b with framesetOk := false }

/-- Whether a node is an element of HTML whose name satisfies `p`. -/
def isHtml (t : Tree) (p : String → Bool) (i : NodeId) : Bool :=
  match t.element? i with
  | some e => e.space = .html && p e.name
  | none => false

def hasName (t : Tree) (name : String) (i : NodeId) : Bool :=
  isHtml t (· == name) i

def current? : Build (Option NodeId) :=
  return (← get).opened.head?

def currentIs (p : String → Bool) : Build Bool := do
  let b ← get
  return b.opened.head?.any (isHtml b.tree p)

def currentNamed (name : String) : Build Bool :=
  currentIs (· == name)

def anyOpen (name : String) : Build Bool := do
  let b ← get
  return b.opened.any (hasName b.tree name)

def pop : Build (Option NodeId) :=
  modifyGet fun b => (b.opened.head?, { b with opened := b.opened.drop 1 })

def popCurrent : Build Unit := do
  let _ ← pop

def push (i : NodeId) : Build Unit :=
  modify fun b => { b with opened := i :: b.opened }

/-- Close an element wherever it is among the open ones. -/
def removeOpen (i : NodeId) : Build Unit :=
  modify fun b => { b with opened := b.opened.erase i }

/-! ### Scopes -/

/-- Elements of other vocabularies in which text is that of a document again. -/
def mathText (e : Element) : Bool :=
  e.space = .math && ["mi", "mo", "mn", "ms", "mtext"].contains e.name

def svgContent (e : Element) : Bool :=
  e.space = .svg && ["foreignobject", "desc", "title"].contains e.name

/-- Where the search for an open element ends. -/
abbrev Scope := Element → Bool

def htmlScope (names : List String) : Scope :=
  fun e => e.space = .html && names.contains e.name

def defaultNames : List String :=
  ["applet", "caption", "html", "table", "td", "th", "marquee", "object", "template"]

def defaultScope : Scope :=
  fun e => htmlScope defaultNames e || mathText e || svgContent e

def listItemScope : Scope :=
  fun e => defaultScope e || htmlScope ["ol", "ul"] e

def buttonScope : Scope :=
  fun e => defaultScope e || htmlScope ["button"] e

def tableScope : Scope :=
  htmlScope ["html", "table", "template"]

def selectScope : Scope :=
  fun e => !htmlScope ["optgroup", "option"] e

/-- Whether one of the innermost open elements, up to the first that ends the scope, satisfies `p`. -/
def scopeHas (t : Tree) (scope : Scope) (p : NodeId → Bool) : List NodeId → Bool
  | [] => false
  | i :: rest => p i || (!(t.element? i).any scope && scopeHas t scope p rest)

def inScope (scope : Scope) (p : NodeId → Bool) : Build Bool := do
  let b ← get
  return scopeHas b.tree scope p b.opened

def inScopeNamed (scope : Scope) (name : String) : Build Bool := do
  let b ← get
  return scopeHas b.tree scope (hasName b.tree name) b.opened

def inScopeIn (scope : Scope) (names : List String) : Build Bool := do
  let b ← get
  return scopeHas b.tree scope (isHtml b.tree names.contains) b.opened

/-! ### Insertion -/

inductive Place where
  | lastChild (parent : NodeId)
  /-- In front of a table, or, if it has no parent, at the end of the element it was opened in. -/
  | besideTable (table outer : NodeId)

def fosterTargets : List String :=
  ["table", "tbody", "tfoot", "thead", "tr"]

/-- Where a node misplaced in a table goes: `opened` are the open elements, innermost first. -/
def fosterPlace (t : Tree) : List NodeId → Place
  | [] => .lastChild Tree.root
  | [i] => if hasName t "template" i then .lastChild (t.templateContent i) else .lastChild i
  | i :: j :: rest =>
    if hasName t "template" i then .lastChild (t.templateContent i)
    else if hasName t "table" i then .besideTable i j
    else fosterPlace t (j :: rest)

/-- Where the next node goes, if not told otherwise into the current one. -/
def placeIn (b : Builder) (target : NodeId) : Place :=
  if b.fostering && isHtml b.tree fosterTargets.contains target then fosterPlace b.tree b.opened
  else if hasName b.tree "template" target then .lastChild (b.tree.templateContent target)
  else .lastChild target

def currentPlace (b : Builder) : Place :=
  placeIn b (b.opened.headD Tree.root)

def insertAt (t : Tree) (place : Place) (i : NodeId) : Tree :=
  match place with
  | .lastChild p => t.append p i
  | .besideTable table outer =>
    if (t.parent? table).isSome then t.insertBefore table i else t.append outer i

def insertTextAt (t : Tree) (place : Place) (text : Text) : Tree :=
  match place with
  | .lastChild p => t.appendText p text
  | .besideTable table outer =>
    if (t.parent? table).isSome then t.insertTextBefore table text else t.appendText outer text

def appendText (text : Text) : Build Outcome := do
  modify fun b => { b with tree := insertTextAt b.tree (currentPlace b) text }
  return .done

def appendComment : Build Outcome := do
  modify fun b =>
    let (tree, i) := b.tree.add .comment
    { b with tree := insertAt tree (currentPlace b) i }
  return .done

def appendCommentTo (parent : NodeId) : Build Outcome := do
  modify fun b =>
    let (tree, i) := b.tree.add .comment
    { b with tree := tree.append parent i }
  return .done

/-- Make an element without inserting it. -/
def create (e : Element) : Build NodeId :=
  modifyGet fun b =>
    let (tree, i) := b.tree.addElement e
    (i, { b with tree })

/-- Insert a new element, open or already closed. -/
def insertElement (isOpen : Bool) (e : Element) : Build NodeId := do
  let i ← create e
  modify fun b => { b with tree := insertAt b.tree (currentPlace b) i }
  if isOpen then push i
  return i

def insertFor (tag : Tag) : Build Unit := do
  let _ ← insertElement true { name := tag.name, attributes := tag.attributes }

def insertClosedFor (tag : Tag) : Build Unit := do
  let _ ← insertElement false { name := tag.name, attributes := tag.attributes }

/-- Insert an element that no tag stands for. -/
def insertImplied (name : String) : Build NodeId :=
  insertElement true { name }

/-- Make the element of a document that all others are in. -/
def createRoot (attributes : Attributes) : Build Unit := do
  let i ← create { name := "html", attributes }
  push i
  modify fun b => { b with tree := b.tree.append Tree.root i }

/-- Attributes that an element does not have yet. -/
def addMissing (i : NodeId) (attributes : Attributes) : Build Unit :=
  modify fun b => { b with tree := b.tree.update i fun n =>
    match n.content with
    | .element e =>
      let new := attributes.filter fun (name, _) => (e.attributes.lookup name).isNone
      { n with content := .element { e with attributes := e.attributes ++ new } }
    | _ => n }

/-! ### Closing -/

/-- Close elements from the innermost on, as long as `p` holds. -/
def dropWhileOpen (p : NodeId → Bool) : Build Unit :=
  modify fun b => { b with opened := b.opened.dropWhile p }

def closeWhile (p : Element → Bool) : Build Unit := do
  let b ← get
  dropWhileOpen fun i => (b.tree.element? i).any p

def impliedNames : List String :=
  ["dd", "dt", "li", "option", "optgroup", "p", "rb", "rp", "rt", "rtc"]

def thoroughNames : List String :=
  impliedNames ++ ["caption", "colgroup", "tbody", "td", "tfoot", "th", "thead", "tr"]

/-- Close the elements whose end tags may be left out. -/
def closeImplied : Build Unit :=
  closeWhile (htmlScope impliedNames)

def closeImpliedExcept (name : String) : Build Unit :=
  closeWhile fun e => htmlScope impliedNames e && e.name != name

/-- Close elements until the current one is one of these. -/
def closeUntilCurrent (names : List String) : Build Unit := do
  let b ← get
  dropWhileOpen fun i => !isHtml b.tree names.contains i

/-- Close elements up to and including the first that satisfies `p`; says whether it was the current
one. -/
def closeThrough (p : String → Bool) : Build Bool := do
  let b ← get
  let rest := b.opened.dropWhile fun i => !isHtml b.tree p i
  set { b with opened := rest.drop 1 }
  return rest.length == b.opened.length && !b.opened.isEmpty

def closeNamed (name : String) : Build Unit := do
  let _ ← closeThrough (· == name)

/-- Close an element that should be the current one. -/
def expectClose (name : String) : Build Unit := do
  unless ← closeThrough (· == name) do fail

def closeParagraph : Build Unit := do
  closeImpliedExcept "p"
  expectClose "p"

def closeParagraphInScope : Build Unit := do
  if ← inScopeNamed buttonScope "p" then closeParagraph

def clearToMarker : Build Unit :=
  modify fun b => { b with formatting := (b.formatting.dropWhile (· != .marker)).drop 1 }

def pushMarker : Build Unit :=
  modify fun b => { b with formatting := .marker :: b.formatting }

def headingNames : List String :=
  ["h1", "h2", "h3", "h4", "h5", "h6"]

def cellNames : List String :=
  ["td", "th"]

def closeCell : Build Unit := do
  closeImplied
  unless ← closeThrough cellNames.contains do fail
  clearToMarker

/-- The second open element, if it is the body. -/
def body? : Build (Option NodeId) := do
  let b ← get
  return (b.opened.reverse[1]?).filter (hasName b.tree "body")

def rootElement : Build NodeId :=
  return (← get).opened.getLast?.getD Tree.root

/-! ### Modes -/

/-- The mode that the open elements call for; `opened` are those from some element outwards. -/
def modeFor (b : Builder) : List NodeId → Mode
  | [] => .inBody
  | i :: outer =>
    match b.tree.element? i with
    | some { name, space := .html, .. } =>
      match name with
      | "select" =>
        match outer.find? fun j => hasName b.tree "template" j || hasName b.tree "table" j with
        | some j => if hasName b.tree "table" j then .inSelectInTable else .inSelect
        | none => .inSelect
      | "td" | "th" => if outer.isEmpty then modeFor b outer else .inCell
      | "tr" => .inRow
      | "tbody" | "thead" | "tfoot" => .inTableBody
      | "caption" => .inCaption
      | "colgroup" => .inColumnGroup
      | "table" => .inTable
      | "template" => b.templateModes.headD .inBody
      | "head" => if outer.isEmpty then modeFor b outer else .inHead
      | "body" => .inBody
      | "frameset" => .inFrameset
      | "html" => if b.head.isNone then .beforeHead else .afterHead
      | _ => modeFor b outer
    | _ => modeFor b outer

def resetMode : Build Mode := do
  let b ← get
  return modeFor b b.opened

/-- Go on with text, and come back to the present mode after it. -/
def enterText (kind : RawKind) : Build Outcome := do
  modify fun b => { b with returnMode := b.mode, mode := .text }
  return .rawText kind

def insertRaw (tag : Tag) (kind : RawKind) : Build Outcome := do
  insertFor tag
  enterText kind

end Build

end LinkSurvey.Html
