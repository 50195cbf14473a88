import LinkSurvey.Html.Builder.Body

/-!
What is built in tables and in lists of options. Content that a table has no place for is put in front
of the table.
-/

namespace LinkSurvey.Html.Build

/-- Treat a token as in a body, but insert in front of the table. -/
def foster (t : Token) : Build Outcome := do
  modify fun b => { b with fostering := true }
  let outcome ← inBody t
  modify fun b => { b with fostering := false }
  return outcome

/-- Text in a table is collected first: blanks stay, anything else is put in front of the table. -/
def tableChars (t : Token) : Build Outcome := do
  if ← currentIs fosterTargets.contains then
    modify fun b => { b with returnMode := b.mode }
    return .again .inTableText t
  else
    fail
    foster t

/-- Start tags of the parts of a table that hold rows. -/
def bodyNames : List String :=
  ["tbody", "tfoot", "thead"]

def inTable (t : Token) : Build Outcome := do
  match t with
  | .null | .text _ _ => tableChars t
  | .comment => appendComment
  | .start tag =>
    let name := tag.name
    if name == "caption" then
      closeUntilCurrent ["html", "table", "template"]
      pushMarker
      insertFor tag
      setMode .inCaption
      return .done
    else if name == "colgroup" then
      closeUntilCurrent ["html", "table", "template"]
      insertFor tag
      setMode .inColumnGroup
      return .done
    else if name == "col" then
      closeUntilCurrent ["html", "table", "template"]
      let _ ← insertImplied "colgroup"
      return .again .inColumnGroup t
    else if bodyNames.contains name then
      closeUntilCurrent ["html", "table", "template"]
      insertFor tag
      setMode .inTableBody
      return .done
    else if name == "td" || name == "th" || name == "tr" then
      closeUntilCurrent ["html", "table", "template"]
      let _ ← insertImplied "tbody"
      return .again .inTableBody t
    else if name == "table" then
      fail
      if ← inScopeNamed tableScope "table" then
        closeNamed "table"
        return .again (← resetMode) t
      else return .done
    else if ["style", "script", "template"].contains name then startHeadContent tag
    else if name == "input" then
      fail
      if isHidden tag then
        insertClosedFor tag
        return .closed
      else foster t
    else if name == "form" then
      fail
      unless (← anyOpen "template") || (← get).form.isSome do
        let i ← insertElement false { name, attributes := tag.attributes }
        modify fun b => { b with form := some i }
      return .done
    else other t
  | .stop tag =>
    let name := tag.name
    if name == "table" then
      if ← inScopeNamed tableScope "table" then
        closeNamed "table"
        setMode (← resetMode)
      else fail
      return .done
    else if ["body", "caption", "col", "colgroup", "html", "tbody", "td", "tfoot", "th", "thead",
        "tr"].contains name then unexpected
    else if name == "template" then stopTemplate
    else other t
  | .eof => bodyEof
  | _ => other t
where
  other (t : Token) : Build Outcome := do
    fail
    foster t

/-- Put collected text, first piece first, in front of the table. -/
def fosterAll : List (Blankness × Text) → Build Unit
  | [] => return
  | (blankness, text) :: rest => do
    let _ ← foster (.text blankness text)
    fosterAll rest

def inTableText (t : Token) : Build Outcome := do
  match t with
  | .null => unexpected
  | .text blankness text =>
    modify fun b => { b with tableText := (blankness, text) :: b.tableText }
    return .done
  | t =>
    let pending := (← get).tableText.reverse
    modify fun b => { b with tableText := [] }
    if pending.all fun (_, text) => allSpace text then
      modify fun b => pending.foldl
        (fun b (_, text) => { b with tree := insertTextAt b.tree (currentPlace b) text }) b
    else
      fail
      fosterAll pending
    return .again (← get).returnMode t

def inCaption (t : Token) : Build Outcome := do
  match t with
  | .start tag =>
    if ["caption", "col", "colgroup", "tbody", "td", "tfoot", "th", "thead", "tr"].contains tag.name
    then leave t
    else inBody t
  | .stop tag =>
    if tag.name == "table" || tag.name == "caption" then leave t
    else if ["body", "col", "colgroup", "html", "tbody", "td", "tfoot", "th", "thead",
        "tr"].contains tag.name then unexpected
    else inBody t
  | t => inBody t
where
  leave (t : Token) : Build Outcome := do
    if ← inScopeNamed tableScope "caption" then
      closeImplied
      expectClose "caption"
      clearToMarker
      match t with
      | .stop { name := "caption", .. } =>
        setMode .inTable
        return .done
      | t => return .again .inTable t
    else unexpected

def inColumnGroup (t : Token) : Build Outcome := do
  match t with
  | .text .unsplit text => return .split text
  | .text .blank text => appendText text
  | .comment => appendComment
  | .start tag =>
    match tag.name with
    | "html" => startHtml tag
    | "col" =>
      insertClosedFor tag
      return .closed
    | "template" => startHeadContent tag
    | _ => other t
  | .stop tag =>
    match tag.name with
    | "colgroup" =>
      if ← currentNamed "colgroup" then
        popCurrent
        setMode .inTable
      else fail
      return .done
    | "col" => unexpected
    | "template" => stopTemplate
    | _ => other t
  | .eof => bodyEof
  | _ => other t
where
  other (t : Token) : Build Outcome := do
    if ← currentNamed "colgroup" then
      popCurrent
      return .again .inTable t
    else unexpected

def bodyContext : List String :=
  ["tbody", "tfoot", "thead", "template", "html"]

def inTableBody (t : Token) : Build Outcome := do
  match t with
  | .start tag =>
    let name := tag.name
    if name == "tr" then
      closeUntilCurrent bodyContext
      insertFor tag
      setMode .inRow
      return .done
    else if cellNames.contains name then
      fail
      closeUntilCurrent bodyContext
      let _ ← insertImplied "tr"
      return .again .inRow t
    else if ["caption", "col", "colgroup", "tbody", "tfoot", "thead"].contains name then leave t
    else inTable t
  | .stop tag =>
    let name := tag.name
    if bodyNames.contains name then
      if ← inScopeNamed tableScope name then
        closeUntilCurrent bodyContext
        popCurrent
        setMode .inTable
      else fail
      return .done
    else if name == "table" then leave t
    else if ["body", "caption", "col", "colgroup", "html", "td", "th", "tr"].contains name then
      unexpected
    else inTable t
  | t => inTable t
where
  leave (t : Token) : Build Outcome := do
    if ← inScopeIn tableScope ["table", "tbody", "tfoot"] then
      closeUntilCurrent bodyContext
      popCurrent
      return .again .inTable t
    else unexpected

def rowContext : List String :=
  ["tr", "template", "html"]

def inRow (t : Token) : Build Outcome := do
  match t with
  | .start tag =>
    let name := tag.name
    if cellNames.contains name then
      closeUntilCurrent rowContext
      insertFor tag
      setMode .inCell
      pushMarker
      return .done
    else if ["caption", "col", "colgroup", "tbody", "tfoot", "thead", "tr"].contains name then leave t
    else inTable t
  | .stop tag =>
    let name := tag.name
    if name == "tr" then
      if ← inScopeNamed tableScope "tr" then
        closeUntilCurrent rowContext
        popCurrent
        setMode .inTableBody
      else fail
      return .done
    else if name == "table" then leave t
    else if bodyNames.contains name then
      if ← inScopeNamed tableScope name then
        if ← inScopeNamed tableScope "tr" then
          closeUntilCurrent rowContext
          popCurrent
          return .again .inTableBody t
        else return .done
      else unexpected
    else if ["body", "caption", "col", "colgroup", "html", "td", "th"].contains name then unexpected
    else inTable t
  | t => inTable t
where
  leave (t : Token) : Build Outcome := do
    if ← inScopeNamed tableScope "tr" then
      closeUntilCurrent rowContext
      popCurrent
      return .again .inTableBody t
    else unexpected

def inCell (t : Token) : Build Outcome := do
  match t with
  | .start tag =>
    if ["caption", "col", "colgroup", "tbody", "td", "tfoot", "th", "thead", "tr"].contains tag.name
    then
      if ← inScopeIn tableScope cellNames then
        closeCell
        return .again .inRow t
      else unexpected
    else inBody t
  | .stop tag =>
    let name := tag.name
    if cellNames.contains name then
      if ← inScopeNamed tableScope name then
        closeImplied
        expectClose name
        clearToMarker
        setMode .inRow
      else fail
      return .done
    else if ["body", "caption", "col", "colgroup", "html"].contains name then unexpected
    else if ["table", "tbody", "tfoot", "thead", "tr"].contains name then
      if ← inScopeNamed tableScope name then
        closeCell
        return .again .inRow t
      else unexpected
    else inBody t
  | t => inBody t

def inSelect (t : Token) : Build Outcome := do
  match t with
  | .null => unexpected
  | .text _ text => appendText text
  | .comment => appendComment
  | .start tag =>
    let name := tag.name
    if name == "html" then startHtml tag
    else if name == "option" then
      if ← currentNamed "option" then popCurrent
      insertFor tag
      return .done
    else if name == "optgroup" then
      if ← currentNamed "option" then popCurrent
      if ← currentNamed "optgroup" then popCurrent
      insertFor tag
      return .done
    else if name == "hr" then
      if ← currentNamed "option" then popCurrent
      if ← currentNamed "optgroup" then popCurrent
      insertClosedFor tag
      return .closed
    else if name == "select" then
      fail
      leave
    else if ["input", "keygen", "textarea"].contains name then
      fail
      if ← inScopeNamed selectScope "select" then
        closeNamed "select"
        return .again (← resetMode) t
      else return .done
    else if name == "script" || name == "template" then startHeadContent tag
    else unexpected
  | .stop tag =>
    let name := tag.name
    if name == "optgroup" then
      let b ← get
      if (← currentNamed "option") && (b.opened[1]?).any (hasName b.tree "optgroup") then popCurrent
      if ← currentNamed "optgroup" then popCurrent else fail
      return .done
    else if name == "option" then
      if ← currentNamed "option" then popCurrent else fail
      return .done
    else if name == "select" then
      unless ← inScopeNamed selectScope "select" do fail
      leave
    else if name == "template" then stopTemplate
    else unexpected
  | .eof => bodyEof
  | _ => unexpected
where
  leave : Build Outcome := do
    if ← inScopeNamed selectScope "select" then
      closeNamed "select"
      setMode (← resetMode)
    return .done

def inSelectInTable (t : Token) : Build Outcome := do
  let names := ["caption", "table", "tbody", "tfoot", "thead", "tr", "td", "th"]
  match t with
  | .start tag =>
    if names.contains tag.name then
      fail
      closeNamed "select"
      return .again (← resetMode) t
    else inSelect t
  | .stop tag =>
    if names.contains tag.name then
      fail
      if ← inScopeNamed tableScope tag.name then
        closeNamed "select"
        return .again (← resetMode) t
      else return .done
    else inSelect t
  | t => inSelect t

end LinkSurvey.Html.Build
