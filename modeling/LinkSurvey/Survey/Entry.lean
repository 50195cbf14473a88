import LinkSurvey.Json.Reader
import LinkSurvey.Survey.Document

/-!
Reports read back from the document that was written for them. Links are texts here, and how long a
survey took is passed over.
-/

namespace LinkSurvey

/-- What a document says of a page. -/
structure PageEntry where
  target : String
  urls : List (List Char)
  markup : Option ParseStatus
  scripts : List ScriptRecord
  errors : List String
  deriving DecidableEq, Repr

def PageReport.entry (r : PageReport) : PageEntry :=
  ⟨r.target, r.urls.texts, r.markup, r.scripts, r.errors⟩

namespace Json

def member? (key : String) : Json → Option Json
  | .object members => members.lookup key.toList
  | _ => none

def text? : Json → Option (List Char)
  | .string value => some value
  | _ => none

def string? (j : Json) : Option String :=
  j.text?.map String.ofList

def nat? : Json → Option Nat
  | .number text => if text.all Char.isDigit then some (Nat.ofDigitChars 10 text 0) else none
  | _ => none

def list? {α : Type} (ofJson? : Json → Option α) : Json → Option (List α)
  | .array items => items.mapM ofJson?
  | _ => none

/-- A value that may be absent. -/
def option? {α : Type} (ofJson? : Json → Option α) : Json → Option (Option α)
  | .null => some none
  | j => (ofJson? j).map some

end Json

/-- The links of a list that was written as JSON. -/
def UrlSet.textsOfJson? : Json → Option (List (List Char)) :=
  Json.list? Json.text?

def ParseStatus.ofJson? (j : Json) : Option ParseStatus := do
  let state ← (← j.member? "state").string?
  if state = "clean" then return .clean
  else if state = "degraded" then return .degraded (← (← j.member? "errors").nat?)
  else if state = "failed" then return .failed
  else none

def Origin.ofJson? (j : Json) : Option Origin := do
  let kind ← (← j.member? "kind").string?
  if kind = "external" then return .external (← (← j.member? "url").string?)
  else if kind = "inline" then return .inline (← (← j.member? "index").nat?)
  else none

def ScriptFate.ofJson? (j : Json) : Option ScriptFate := do
  let result ← (← j.member? "result").string?
  if result = "parsed" then return .parsed (← ParseStatus.ofJson? (← j.member? "parse"))
  else if result = "fetch_failed" then return .fetchFailed (← (← j.member? "error").string?)
  else if result = "too_large" then return .tooLarge
  else none

def ScriptRecord.ofJson? (j : Json) : Option ScriptRecord := do
  return {
    origin := ← Origin.ofJson? (← j.member? "origin")
    bytes := ← (← j.member? "bytes").nat?
    digest := ← (← j.member? "content_hash").option? Json.string?
    fate := ← ScriptFate.ofJson? (← j.member? "status")
    candidates := ← (← j.member? "candidates").nat? }

def PageEntry.ofJson? (j : Json) : Option PageEntry := do
  return {
    target := ← (← j.member? "target").string?
    urls := ← UrlSet.textsOfJson? (← j.member? "urls")
    markup := ← (← j.member? "markup").option? ParseStatus.ofJson?
    scripts := ← (← j.member? "scripts").list? ScriptRecord.ofJson?
    errors := ← (← j.member? "errors").list? Json.string? }

/-- The entries of the document of several reports. -/
def PageEntry.ofDocument? : Json → Option (List PageEntry) :=
  Json.list? ofJson?

end LinkSurvey
