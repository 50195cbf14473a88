import LinkSurvey.Html.Builder.Formatting

/-!
What is built before the body of a document, and the content that may stand in a head as well as in a
body.
-/

namespace LinkSurvey.Html.Build

/-- Document type identifiers that, on their own or as the start of a longer one, mean that a page was
written for old browsers. -/
def quirkyPublicStarts : List String := [
  "-//advasoft ltd//dtd html 3.0 aswedit + extensions//",
  "-//as//dtd html 3.0 aswedit + extensions//",
  "-//ietf//dtd html 2.0 level 1//",
  "-//ietf//dtd html 2.0 level 2//",
  "-//ietf//dtd html 2.0 strict level 1//",
  "-//ietf//dtd html 2.0 strict level 2//",
  "-//ietf//dtd html 2.0 strict//",
  "-//ietf//dtd html 2.0//",
  "-//ietf//dtd html 2.1e//",
  "-//ietf//dtd html 3.0//",
  "-//ietf//dtd html 3.2 final//",
  "-//ietf//dtd html 3.2//",
  "-//ietf//dtd html 3//",
  "-//ietf//dtd html level 0//",
  "-//ietf//dtd html level 1//",
  "-//ietf//dtd html level 2//",
  "-//ietf//dtd html level 3//",
  "-//ietf//dtd html strict level 0//",
  "-//ietf//dtd html strict level 1//",
  "-//ietf//dtd html strict level 2//",
  "-//ietf//dtd html strict level 3//",
  "-//ietf//dtd html strict//",
  "-//ietf//dtd html//",
  "-//metrius//dtd metrius presentational//",
  "-//microsoft//dtd internet explorer 2.0 html strict//",
  "-//microsoft//dtd internet explorer 2.0 html//",
  "-//microsoft//dtd internet explorer 2.0 tables//",
  "-//microsoft//dtd internet explorer 3.0 html strict//",
  "-//microsoft//dtd internet explorer 3.0 html//",
  "-//microsoft//dtd internet explorer 3.0 tables//",
  "-//netscape comm. corp.//dtd html//",
  "-//netscape comm. corp.//dtd strict html//",
  "-//o'reilly and associates//dtd html 2.0//",
  "-//o'reilly and associates//dtd html extended 1.0//",
  "-//o'reilly and associates//dtd html extended relaxed 1.0//",
  "-//softquad software//dtd hotmetal pro 6.0::19990601::extensions to html 4.0//",
  "-//softquad//dtd hotmetal pro 4.0::19971010::extensions to html 4.0//",
  "-//spyglass//dtd html 2.0 extended//",
  "-//sq//dtd html 2.0 hotmetal + extensions//",
  "-//sun microsystems corp.//dtd hotjava html//",
  "-//sun microsystems corp.//dtd hotjava strict html//",
  "-//w3c//dtd html 3 1995-03-24//",
  "-//w3c//dtd html 3.2 draft//",
  "-//w3c//dtd html 3.2 final//",
  "-//w3c//dtd html 3.2//",
  "-//w3c//dtd html 3.2s draft//",
  "-//w3c//dtd html 4.0 frameset//",
  "-//w3c//dtd html 4.0 transitional//",
  "-//w3c//dtd html experimental 19960712//",
  "-//w3c//dtd html experimental 970421//",
  "-//w3c//dtd w3 html//",
  "-//w3o//dtd w3 html 3.0//",
  "-//webtechs//dtd mozilla html 2.0//",
  "-//webtechs//dtd mozilla html//"]

def quirkyPublic : List String :=
  ["-//w3o//dtd w3 html strict 3.0//en//", "-/w3c/dtd html 4.0 transitional/en", "html"]

def quirkySystem : List String :=
  ["http://www.ibm.com/data/dtd/v11/ibmxhtml1-transitional.dtd"]

/-- Starts of identifiers that are quirky only without a system identifier. -/
def halfQuirkyStarts : List String :=
  ["-//w3c//dtd html 4.01 frameset//", "-//w3c//dtd html 4.01 transitional//"]

def startsWithAny (starts : List String) (text : Text) : Bool :=
  starts.any fun s => s.toList.isPrefixOf text

def lower (text : Text) : Text :=
  text.map Char.toLower

def isQuirky (d : Doctype) : Bool :=
  d.forceQuirks || d.name != some "html".toList
    || d.publicId.any (fun p => quirkyPublic.any (·.toList == lower p))
    || d.systemId.any (fun s => quirkySystem.any (·.toList == lower s))
    || d.publicId.any (fun p => startsWithAny quirkyPublicStarts (lower p))
    || (d.systemId.isNone && d.publicId.any (fun p => startsWithAny halfQuirkyStarts (lower p)))

/-- Public and system identifiers of document types that are in order. -/
def properIdentifiers : List (Option String × Option String) := [
  (none, none),
  (none, some "about:legacy-compat"),
  (some "-//W3C//DTD HTML 4.0//EN", none),
  (some "-//W3C//DTD HTML 4.0//EN", some "http://www.w3.org/TR/REC-html40/strict.dtd"),
  (some "-//W3C//DTD HTML 4.01//EN", none),
  (some "-//W3C//DTD HTML 4.01//EN", some "http://www.w3.org/TR/html4/strict.dtd"),
  (some "-//W3C//DTD XHTML 1.0 Strict//EN",
    some "http://www.w3.org/TR/xhtml1/DTD/xhtml1-strict.dtd"),
  (some "-//W3C//DTD XHTML 1.1//EN", some "http://www.w3.org/TR/xhtml11/DTD/xhtml11.dtd")]

def isProper (d : Doctype) : Bool :=
  d.name == some "html".toList && properIdentifiers.any fun (p, s) =>
    d.publicId == p.map String.toList && d.systemId == s.map String.toList

/-- A document type declaration has its place at the very start. -/
def doctype (d : Doctype) : Build Unit := do
  if (← get).mode = .initial then
    unless isProper d do fail
    modify fun b =>
      let (tree, i) := b.tree.add .doctype
      { b with tree := tree.append Tree.root i, quirks := isQuirky d, mode := .beforeHtml }
  else fail

/-- A second start of the document adds attributes to it. -/
def startHtml (tag : Tag) : Build Outcome := do
  fail
  unless ← anyOpen "template" do addMissing (← rootElement) tag.attributes
  return .done

/-- The end of a template. -/
def stopTemplate : Build Outcome := do
  if ← anyOpen "template" then
    closeWhile (htmlScope thoroughNames)
    expectClose "template"
    clearToMarker
    modify fun b => { b with templateModes := b.templateModes.drop 1 }
    setMode (← resetMode)
    return .done
  else unexpected

def metadataNames : List String :=
  ["base", "basefont", "bgsound", "link", "meta"]

/-- Start tags that are treated alike in a head and in a body. -/
def headNames : List String :=
  metadataNames ++ ["noframes", "script", "style", "template", "title"]

/-- One of those tags. -/
def startHeadContent (tag : Tag) : Build Outcome := do
  match tag.name with
  | "title" => insertRaw tag .escapable
  | "noframes" | "style" | "noscript" => insertRaw tag .raw
  | "script" => insertRaw tag .script
  | "template" =>
    insertFor tag
    pushMarker
    modify fun b => { b with
      framesetOk := false, mode := .inTemplate, templateModes := .inTemplate :: b.templateModes }
    return .done
  | _ =>
    insertClosedFor tag
    return .closed

/-- End tags that, where they mean nothing, are treated like other content. -/
def lateStops : List String :=
  ["body", "html", "br"]

def initial (t : Token) : Build Outcome := do
  match t with
  | .text .unsplit text => return .split text
  | .text .blank _ => return .done
  | .comment => appendCommentTo Tree.root
  | t =>
    fail
    modify fun b => { b with quirks := true }
    return .again .beforeHtml t

def beforeHtml (t : Token) : Build Outcome := do
  match t with
  | .comment => appendCommentTo Tree.root
  | .text .unsplit text => return .split text
  | .text .blank _ => return .done
  | .start tag =>
    if tag.name == "html" then
      createRoot tag.attributes
      setMode .beforeHead
      return .done
    else other t
  | .stop tag => if ("head" :: lateStops).contains tag.name then other t else unexpected
  | t => other t
where
  other (t : Token) : Build Outcome := do
    createRoot []
    return .again .beforeHead t

def beforeHead (t : Token) : Build Outcome := do
  match t with
  | .text .unsplit text => return .split text
  | .text .blank _ => return .done
  | .comment => appendComment
  | .start tag =>
    if tag.name == "html" then startHtml tag
    else if tag.name == "head" then
      let i ← insertElement true { name := tag.name, attributes := tag.attributes }
      modify fun b => { b with head := some i, mode := .inHead }
      return .done
    else other t
  | .stop tag => if ("head" :: lateStops).contains tag.name then other t else unexpected
  | t => other t
where
  other (t : Token) : Build Outcome := do
    let i ← insertImplied "head"
    modify fun b => { b with head := some i }
    return .again .inHead t

def inHead (t : Token) : Build Outcome := do
  match t with
  | .text .unsplit text => return .split text
  | .text .blank text => appendText text
  | .comment => appendComment
  | .start tag =>
    if tag.name == "html" then startHtml tag
    else if tag.name == "head" then unexpected
    else if headNames.contains tag.name || tag.name == "noscript" then startHeadContent tag
    else other t
  | .stop tag =>
    if tag.name == "head" then
      popCurrent
      setMode .afterHead
      return .done
    else if lateStops.contains tag.name then other t
    else if tag.name == "template" then stopTemplate
    else unexpected
  | t => other t
where
  other (t : Token) : Build Outcome := do
    popCurrent
    return .again .afterHead t

def afterHead (t : Token) : Build Outcome := do
  match t with
  | .text .unsplit text => return .split text
  | .text .blank text => appendText text
  | .comment => appendComment
  | .start tag =>
    if tag.name == "html" then startHtml tag
    else if tag.name == "body" then
      insertFor tag
      spoilFrameset
      setMode .inBody
      return .done
    else if tag.name == "frameset" then
      insertFor tag
      setMode .inFrameset
      return .done
    else if headNames.contains tag.name then
      fail
      let head := (← get).head.getD Tree.root
      push head
      let outcome ← startHeadContent tag
      removeOpen head
      return outcome
    else if tag.name == "head" then unexpected
    else other t
  | .stop tag =>
    if tag.name == "template" then stopTemplate
    else if lateStops.contains tag.name then other t
    else unexpected
  | t => other t
where
  other (t : Token) : Build Outcome := do
    let _ ← insertImplied "body"
    return .again .inBody t

end LinkSurvey.Html.Build
