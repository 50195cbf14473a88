import LinkSurvey.ParseStatus
import LinkSurvey.UrlSet

/-!
What a survey of one page has found.
-/

namespace LinkSurvey

/-- Where the code of a script comes from. -/
inductive Origin where
  | external (url : String)
  /-- Inline scripts are counted from zero. -/
  | inline (index : Nat)
  deriving DecidableEq, Repr

/-- The script as it is called in a log. -/
def Origin.label : Origin → String
  | .external url => url
  | .inline index => "inline script #" ++ toString index

inductive ScriptFate where
  | parsed (status : ParseStatus)
  | fetchFailed (error : String)
  | tooLarge
  deriving DecidableEq, Repr

def ScriptFate.isParsed : ScriptFate → Bool
  | .parsed _ => true
  | _ => false

structure ScriptRecord where
  origin : Origin
  /-- The size of the code, zero if it could not be fetched. -/
  bytes : Nat := 0
  digest : Option String := none
  fate : ScriptFate
  /-- How many candidates the script gave, accepted or not. -/
  candidates : Nat := 0
  deriving DecidableEq, Repr

structure PageReport where
  target : String
  urls : UrlSet := .empty
  /-- Absent if the page could not be loaded. -/
  markup : Option ParseStatus := none
  scripts : List ScriptRecord := []
  errors : List String := []

def PageReport.pageLoaded (r : PageReport) : Bool :=
  r.markup.isSome

def PageReport.failedScripts (r : PageReport) : Nat :=
  (r.scripts.filter fun s => !s.fate.isParsed).length

/-- A report with the time that the survey took. -/
structure TimedReport extends PageReport where
  seconds : Float := 0

end LinkSurvey
