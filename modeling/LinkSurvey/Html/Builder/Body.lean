import LinkSurvey.Html.Builder.Head

/-!
What is built in the body of a document, and at its end.
-/

namespace LinkSurvey.Html.Build

/-- Elements that may still be open where a body ends. -/
def endableNames : List String := [
  "dd", "dt", "li", "optgroup", "option", "p", "rp", "rt", "tbody", "td", "tfoot", "th", "thead",
  "tr", "body", "html"]

def checkBodyEnd : Build Unit := do
  let b ← get
  unless b.opened.all fun i => isHtml b.tree endableNames.contains i do fail

/-- The end of the input in a template, which may be one of several. -/
def templateEof : Build Outcome := do
  if ← anyOpen "template" then
    fail
    closeNamed "template"
    clearToMarker
    modify fun b => { b with templateModes := b.templateModes.drop 1 }
    let mode ← resetMode
    return .again mode .eof
  else return .done

def bodyEof : Build Outcome := do
  if (← get).templateModes.isEmpty then
    checkBodyEnd
    return .done
  else templateEof

/-- Elements that end an open paragraph. -/
def blockNames : List String := [
  "address", "article", "aside", "blockquote", "center", "details", "dialog", "dir", "div", "dl",
  "fieldset", "figcaption", "figure", "footer", "header", "hgroup", "main", "menu", "nav", "ol",
  "p", "search", "section", "summary", "ul"]

/-- End tags that close the element they name together with what was left open in it. -/
def blockStops : List String := [
  "address", "article", "aside", "blockquote", "button", "center", "details", "dialog", "dir",
  "div", "dl", "fieldset", "figcaption", "figure", "footer", "header", "hgroup", "listing",
  "main", "menu", "nav", "ol", "pre", "search", "section", "summary", "ul"]

def formattingNames : List String :=
  ["b", "big", "code", "em", "font", "i", "s", "small", "strike", "strong", "tt", "u"]

/-- Elements with content of their own, to which formatting from outside does not apply. -/
def objectNames : List String :=
  ["applet", "marquee", "object"]

/-- Elements that belong into a table and mean nothing elsewhere. -/
def strayNames : List String := [
  "caption", "col", "colgroup", "frame", "head", "tbody", "td", "tfoot", "th", "thead", "tr"]

def isHidden (tag : Tag) : Bool :=
  (tag.attribute? "type").any fun v => lower v == "hidden".toList

/-- An element that never has content. -/
def insertVoid (tag : Tag) : Build Outcome := do
  reconstruct
  insertClosedFor tag
  unless tag.name == "input" && isHidden tag do spoilFrameset
  return .closed

def startListItem (tag : Tag) : Build Outcome := do
  let names := if tag.name == "li" then ["li"] else ["dd", "dt"]
  spoilFrameset
  let b ← get
  let stops : NodeId → Bool := fun i =>
    isSpecial b.tree i && !isHtml b.tree ["address", "div", "p"].contains i
  match b.opened.find? fun i => isHtml b.tree names.contains i || stops i with
  | some i =>
    if isHtml b.tree names.contains i then
      let name := ((b.tree.element? i).map (·.name)).getD ""
      closeImpliedExcept name
      expectClose name
  | none => pure ()
  closeParagraphInScope
  insertFor tag
  return .done

/-- The root of a drawing or formula. -/
def enterForeign (space : Space) (tag : Tag) : Build Outcome := do
  let _ ← insertElement (!tag.selfClosing) { name := tag.name, space, attributes := tag.attributes }
  return if tag.selfClosing then .closed else .done

def startInBody (tag : Tag) : Build Outcome := do
  let name := tag.name
  if name == "html" then startHtml tag
  else if headNames.contains name then startHeadContent tag
  else if name == "body" then
    fail
    match ← body? with
    | some body =>
      unless (← get).opened.length == 1 || (← anyOpen "template") do
        spoilFrameset
        addMissing body tag.attributes
    | none => pure ()
    return .done
  else if name == "frameset" then
    fail
    if (← get).framesetOk then
      match ← body? with
      | some body =>
        modify fun b => { b with
          tree := b.tree.detach body, opened := b.opened.drop (b.opened.length - 1) }
        insertFor tag
        setMode .inFrameset
      | none => pure ()
    return .done
  else if blockNames.contains name then
    closeParagraphInScope
    insertFor tag
    return .done
  else if headingNames.contains name then
    closeParagraphInScope
    if ← currentIs headingNames.contains then
      fail
      popCurrent
    insertFor tag
    return .done
  else if name == "pre" || name == "listing" then
    closeParagraphInScope
    insertFor tag
    modify fun b => { b with skipLineFeed := true, framesetOk := false }
    return .done
  else if name == "form" then
    let inTemplate ← anyOpen "template"
    if (← get).form.isSome && !inTemplate then fail
    else
      closeParagraphInScope
      let i ← insertElement true { name, attributes := tag.attributes }
      unless ← anyOpen "template" do modify fun b => { b with form := some i }
    return .done
  else if name == "li" || name == "dd" || name == "dt" then startListItem tag
  else if name == "plaintext" then
    closeParagraphInScope
    insertFor tag
    return .plainText
  else if name == "button" then
    if ← inScopeNamed defaultScope "button" then
      fail
      closeImplied
      closeNamed "button"
    reconstruct
    insertFor tag
    spoilFrameset
    return .done
  else if name == "a" then
    closeOuterLink
    reconstruct
    insertFormatting tag
    return .done
  else if formattingNames.contains name then
    reconstruct
    insertFormatting tag
    return .done
  else if name == "nobr" then
    reconstruct
    if ← inScopeNamed defaultScope "nobr" then
      fail
      adopt "nobr"
      reconstruct
    insertFormatting tag
    return .done
  else if objectNames.contains name then
    reconstruct
    insertFor tag
    pushMarker
    spoilFrameset
    return .done
  else if name == "table" then
    unless (← get).quirks do closeParagraphInScope
    insertFor tag
    spoilFrameset
    setMode .inTable
    return .done
  else if ["area", "br", "embed", "img", "keygen", "wbr", "input"].contains name then insertVoid tag
  else if ["param", "source", "track"].contains name then
    insertClosedFor tag
    return .closed
  else if name == "hr" then
    closeParagraphInScope
    insertClosedFor tag
    spoilFrameset
    return .closed
  else if name == "image" then
    fail
    insertVoid { tag with name := "img" }
  else if name == "textarea" then
    modify fun b => { b with skipLineFeed := true, framesetOk := false }
    insertRaw tag .escapable
  else if name == "xmp" then
    closeParagraphInScope
    reconstruct
    spoilFrameset
    insertRaw tag .raw
  else if name == "iframe" then
    spoilFrameset
    insertRaw tag .raw
  else if name == "noembed" || name == "noscript" then insertRaw tag .raw
  else if name == "select" then
    reconstruct
    insertFor tag
    spoilFrameset
    let mode := (← get).mode
    setMode (if mode matches .inTable | .inCaption | .inTableBody | .inRow | .inCell
      then .inSelectInTable else .inSelect)
    return .done
  else if name == "optgroup" || name == "option" then
    if ← currentNamed "option" then popCurrent
    reconstruct
    insertFor tag
    return .done
  else if name == "rb" || name == "rtc" then
    if ← inScopeNamed defaultScope "ruby" then closeImplied
    unless ← currentNamed "ruby" do fail
    insertFor tag
    return .done
  else if name == "rp" || name == "rt" then
    if ← inScopeNamed defaultScope "ruby" then closeImpliedExcept "rtc"
    unless ← currentIs ["rtc", "ruby"].contains do fail
    insertFor tag
    return .done
  else if name == "math" then enterForeign .math tag
  else if name == "svg" then enterForeign .svg tag
  else if strayNames.contains name then unexpected
  else
    reconstruct
    insertFor tag
    return .done

def stopForm : Build Outcome := do
  if ← anyOpen "template" then
    if ← inScopeNamed defaultScope "form" then
      closeImplied
      unless ← currentNamed "form" do fail
      closeNamed "form"
    else fail
  else
    let form := (← get).form
    modify fun b => { b with form := none }
    match form with
    | none => fail
    | some i =>
      if ← inScope defaultScope (· == i) then
        closeImplied
        let current ← current?
        removeOpen i
        unless current == some i do fail
      else fail
  return .done

def stopInBody (tag : Tag) : Build Outcome := do
  let name := tag.name
  if name == "template" then stopTemplate
  else if name == "body" then
    if ← inScopeNamed defaultScope "body" then
      checkBodyEnd
      setMode .afterBody
    else fail
    return .done
  else if name == "html" then
    if ← inScopeNamed defaultScope "body" then
      checkBodyEnd
      return .again .afterBody (.stop tag)
    else unexpected
  else if blockStops.contains name then
    if ← inScopeNamed defaultScope name then
      closeImplied
      expectClose name
    else fail
    return .done
  else if name == "form" then stopForm
  else if name == "p" then
    unless ← inScopeNamed buttonScope "p" do
      fail
      let _ ← insertImplied "p"
    closeParagraph
    return .done
  else if name == "li" || name == "dd" || name == "dt" then
    if ← inScopeNamed (if name == "li" then listItemScope else defaultScope) name then
      closeImpliedExcept name
      expectClose name
    else fail
    return .done
  else if headingNames.contains name then
    if ← inScopeIn defaultScope headingNames then
      closeImplied
      unless ← currentNamed name do fail
      let _ ← closeThrough headingNames.contains
    else fail
    return .done
  else if name == "a" || name == "nobr" || formattingNames.contains name then
    adopt name
    return .done
  else if objectNames.contains name then
    if ← inScopeNamed defaultScope name then
      closeImplied
      expectClose name
      clearToMarker
    else fail
    return .done
  else if name == "br" then
    fail
    insertVoid { name := "br" }
  else
    closeAny name
    return .done

def inBody (t : Token) : Build Outcome := do
  match t with
  | .null => unexpected
  | .text _ text =>
    reconstruct
    unless allSpace text do spoilFrameset
    appendText text
  | .comment => appendComment
  | .start tag => startInBody tag
  | .stop tag => stopInBody tag
  | .eof => bodyEof
  | .doctype _ => return .done

/-- Inside of an element whose content is text. -/
def inText (t : Token) : Build Outcome := do
  match t with
  | .text _ text => appendText text
  | .eof =>
    fail
    popCurrent
    return .again (← get).returnMode .eof
  | .stop _ =>
    popCurrent
    modify fun b => { b with mode := b.returnMode }
    return .done
  | _ => return .done

def inTemplate (t : Token) : Build Outcome := do
  match t with
  | .text _ _ | .comment => inBody t
  | .start tag =>
    let name := tag.name
    if headNames.contains name then startHeadContent tag
    else if ["caption", "colgroup", "tbody", "tfoot", "thead"].contains name then goTo .inTable t
    else if name == "col" then goTo .inColumnGroup t
    else if name == "tr" then goTo .inTableBody t
    else if cellNames.contains name then goTo .inRow t
    else goTo .inBody t
  | .stop tag => if tag.name == "template" then stopTemplate else unexpected
  | .eof => templateEof
  | _ => unexpected
where
  goTo (mode : Mode) (t : Token) : Build Outcome := do
    modify fun b => { b with templateModes := mode :: b.templateModes.drop 1 }
    return .again mode t

def afterBody (t : Token) : Build Outcome := do
  match t with
  | .text .unsplit text => return .split text
  | .text .blank _ => inBody t
  | .comment => appendCommentTo (← rootElement)
  | .start tag => if tag.name == "html" then startHtml tag else other t
  | .stop tag =>
    if tag.name == "html" then
      setMode .afterAfterBody
      return .done
    else other t
  | .eof => return .done
  | _ => other t
where
  other (t : Token) : Build Outcome := do
    fail
    return .again .inBody t

def inFrameset (t : Token) : Build Outcome := do
  match t with
  | .text .unsplit text => return .split text
  | .text .blank text => appendText text
  | .comment => appendComment
  | .start tag =>
    match tag.name with
    | "html" => startHtml tag
    | "frameset" =>
      insertFor tag
      return .done
    | "frame" =>
      insertClosedFor tag
      return .closed
    | "noframes" => startHeadContent tag
    | _ => unexpected
  | .stop tag =>
    if tag.name == "frameset" then
      if (← get).opened.length == 1 then fail
      else
        popCurrent
        unless ← currentNamed "frameset" do setMode .afterFrameset
      return .done
    else unexpected
  | .eof =>
    unless (← get).opened.length == 1 do fail
    return .done
  | _ => unexpected

def afterFrameset (t : Token) : Build Outcome := do
  match t with
  | .text .unsplit text => return .split text
  | .text .blank text => appendText text
  | .comment => appendComment
  | .start tag =>
    match tag.name with
    | "html" => startHtml tag
    | "noframes" => startHeadContent tag
    | _ => unexpected
  | .stop tag =>
    if tag.name == "html" then
      setMode .afterAfterFrameset
      return .done
    else unexpected
  | .eof => return .done
  | _ => unexpected

def afterAfterBody (t : Token) : Build Outcome := do
  match t with
  | .text .unsplit text => return .split text
  | .text .blank _ => inBody t
  | .comment => appendCommentTo Tree.root
  | .start tag => if tag.name == "html" then startHtml tag else other t
  | .eof => return .done
  | _ => other t
where
  other (t : Token) : Build Outcome := do
    fail
    return .again .inBody t

def afterAfterFrameset (t : Token) : Build Outcome := do
  match t with
  | .text .unsplit text => return .split text
  | .text .blank _ => inBody t
  | .comment => appendCommentTo Tree.root
  | .start tag =>
    match tag.name with
    | "html" => startHtml tag
    | "noframes" => startHeadContent tag
    | _ => unexpected
  | .eof => return .done
  | _ => unexpected

end LinkSurvey.Html.Build
