import LinkSurvey.Html.Builder.State

/-!
Formatting elements. One that is cut off by the end of a block is opened again in the next one, and an
end tag in the wrong place rearranges the tree so that both elements keep their content.
-/

namespace LinkSurvey.Html.Build

/-- Elements with a structure of their own, which formatting does not reach across. -/
def specialNames : List String := [
  "address", "applet", "area", "article", "aside", "base", "basefont", "bgsound", "blockquote",
  "body", "br", "button", "caption", "center", "col", "colgroup", "dd", "details", "dir", "div",
  "dl", "dt", "embed", "fieldset", "figcaption", "figure", "footer", "form", "frame", "frameset",
  "h1", "h2", "h3", "h4", "h5", "h6", "head", "header", "hgroup", "hr", "html", "iframe", "img",
  "input", "isindex", "li", "link", "listing", "main", "marquee", "menu", "meta", "nav",
  "noembed", "noframes", "noscript", "object", "ol", "p", "param", "plaintext", "pre", "script",
  "section", "select", "source", "style", "summary", "table", "tbody", "td", "template",
  "textarea", "tfoot", "th", "thead", "title", "tr", "track", "ul", "wbr", "xmp"]

def isSpecial (t : Tree) (i : NodeId) : Bool :=
  isHtml t specialNames.contains i

/-- The entries of the list after the last marker, last one first. -/
def sinceMarker (entries : List Entry) : List Entry :=
  entries.takeWhile (· != .marker)

def Entry.isNode (i : NodeId) : Entry → Bool
  | .marker => false
  | .element j _ => i == j

def isListed (b : Builder) (i : NodeId) : Bool :=
  b.formatting.any (Entry.isNode i)

def unlist (i : NodeId) : Build Unit :=
  modify fun b => { b with formatting := b.formatting.eraseP (Entry.isNode i) }

/-- Put `new` in the place of the entry of a node. -/
def relist (i : NodeId) (new : Entry) : Build Unit :=
  modify fun b => { b with
    formatting := b.formatting.map fun e => if Entry.isNode i e then new else e }

/-- Open again, one in the other, the elements of `entries`, which are given first one first. -/
def reopen : List Entry → Build Unit
  | [] => return
  | .marker :: rest => reopen rest
  | .element i tag :: rest => do
    let j ← insertElement true { name := tag.name, attributes := tag.attributes }
    relist i (.element j tag)
    reopen rest

/-- Open again the formatting elements that are not open, back to a marker or one that is. -/
def reconstruct : Build Unit := do
  let b ← get
  let isClosed : Entry → Bool
    | .marker => false
    | .element i _ => !b.opened.contains i
  reopen (b.formatting.takeWhile isClosed).reverse

/-- Insert a formatting element. Of four alike since the last marker the earliest is forgotten. -/
def insertFormatting (tag : Tag) : Build Unit := do
  let b ← get
  let alike : Entry → Bool
    | .marker => false
    | .element _ old => old.name == tag.name
      && old.attributes.length == tag.attributes.length
      && tag.attributes.all old.attributes.contains
  let same := (sinceMarker b.formatting).filter alike
  if same.length ≥ 3 then
    match same.getLast? with
    | some (.element i _) => unlist i
    | _ => return
  let i ← insertElement true { name := tag.name, attributes := tag.attributes }
  modify fun b => { b with formatting := .element i tag :: b.formatting }

/-- Any other end tag: it closes the element it names, unless a special one is in between. -/
def closeAny (name : String) : Build Unit := do
  let b ← get
  match b.opened.find? fun i => hasName b.tree name i || isSpecial b.tree i with
  | none => fail
  | some i =>
    if hasName b.tree name i then
      closeImpliedExcept name
      let b ← get
      unless b.opened.head? == some i do fail
      modify fun b => { b with opened := (b.opened.dropWhile (· != i)).drop 1 }
    else fail

/-- What the rearrangement carries along while it walks from the furthest block out to the formatting
element. -/
structure Walk where
  /-- The node that will hang from the next one. -/
  last : NodeId
  /-- After which entry the formatting element will be listed, if not in its own place. -/
  bookmark : Option NodeId := none
  count : Nat := 0

/-- Walk over the open elements `between` the furthest block and the formatting element, innermost
first. Formatting elements are made anew and take what has been walked over; others are closed, as
are formatting elements from the fourth on. -/
def walkBetween (block : NodeId) (w : Walk) : List NodeId → Build Walk
  | [] => return w
  | node :: rest => do
    let count := w.count + 1
    let b ← get
    match b.formatting.find? (Entry.isNode node) with
    | some (.element _ tag) =>
      if count > 3 then
        unlist node
        removeOpen node
        walkBetween block { w with count } rest
      else
        let new ← create { name := tag.name, attributes := tag.attributes }
        modify fun b => { b with opened := b.opened.map fun i => if i == node then new else i }
        relist node (.element new tag)
        let bookmark := if w.last == block then some new else w.bookmark
        modify fun b => { b with tree := (b.tree.detach w.last).append new w.last }
        walkBetween block { last := new, bookmark, count } rest
    | _ =>
      removeOpen node
      walkBetween block { w with count } rest

/-- The list with `new` for the formatting element, in its place or after the bookmark. -/
def placeEntry (fmt : NodeId) (bookmark : Option NodeId) (new : Entry) (entries : List Entry) :
    List Entry :=
  match bookmark with
  | none => entries.map fun e => if Entry.isNode fmt e then new else e
  | some mark =>
    let (later, earlier) := entries.span fun e => !Entry.isNode mark e
    (later ++ new :: earlier).eraseP (Entry.isNode fmt)

/-- The rearrangement for a formatting element `fmt` with a special element inside of it. -/
def rearrange (fmt : NodeId) (tag : Tag) (block : NodeId) : Build Unit := do
  let b ← get
  let between := ((b.opened.dropWhile (· != block)).drop 1).takeWhile (· != fmt)
  let ancestor := ((b.opened.dropWhile (· != fmt)).drop 1).headD Tree.root
  let w ← walkBetween block { last := block } between
  modify fun b =>
    let tree := b.tree.detach w.last
    { b with tree := insertAt tree (placeIn { b with tree } ancestor) w.last }
  let new ← create { name := tag.name, attributes := tag.attributes }
  modify fun b =>
    let tree := (b.tree.moveChildren block new).append block new
    let opened := b.opened.erase fmt
    let (inner, outer) := opened.span (· != block)
    { b with
      tree
      formatting := placeEntry fmt w.bookmark (.element new tag) b.formatting
      opened := inner ++ new :: outer }

/-- One round of the rearrangement for an end tag; says whether there may be another one. -/
def adoptOnce (name : String) : Build Bool := do
  let b ← get
  let named : Entry → Bool
    | .marker => false
    | .element _ tag => tag.name == name
  match (sinceMarker b.formatting).find? named with
  | some (.element fmt tag) =>
    if !b.opened.contains fmt then
      fail
      unlist fmt
      return false
    if !scopeHas b.tree defaultScope (· == fmt) b.opened then
      fail
      return false
    unless b.opened.head? == some fmt do fail
    match ((b.opened.takeWhile (· != fmt)).filter (isSpecial b.tree)).getLast? with
    | none =>
      modify fun b => { b with opened := (b.opened.dropWhile (· != fmt)).drop 1 }
      unlist fmt
      return false
    | some block =>
      rearrange fmt tag block
      return true
  | _ =>
    closeAny name
    return false

def adoptRounds (name : String) : Nat → Build Unit
  | 0 => return
  | n + 1 => do
    if ← adoptOnce name then adoptRounds name n

/-- The end tag of a formatting element. -/
def adopt (name : String) : Build Unit := do
  let b ← get
  match b.opened.head? with
  | some i =>
    if hasName b.tree name i && !isListed b i then popCurrent
    else adoptRounds name 8
  | none => adoptRounds name 8

/-- A link in a link ends the outer one. -/
def closeOuterLink : Build Unit := do
  let b ← get
  let isLink : Entry → Bool
    | .marker => false
    | .element i _ => hasName b.tree "a" i
  match (sinceMarker b.formatting).find? isLink with
  | some (.element i _) =>
    fail
    adopt "a"
    unlist i
    removeOpen i
  | _ => return

end LinkSurvey.Html.Build
