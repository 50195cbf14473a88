import LinkSurvey.Digest
import LinkSurvey.Fetch.Source
import LinkSurvey.Script
import LinkSurvey.Survey.Plan
import LinkSurvey.Survey.Report
import LinkSurvey.Text.Quoted

/-!
What becomes of the single script: it is fetched if it is not in the page, and read if it is not too
large. Whatever goes wrong is a fact of its record.
-/

namespace LinkSurvey.Survey

structure Options where
  /-- How many scripts of a page are under way at the same time. -/
  concurrency : Nat := 8
  /-- The limit to every single fetch. -/
  fetchTimeout : Fetch.Span := .ofSeconds 30
  /-- Larger scripts are not read. -/
  maxScriptBytes : Nat := 5 * 1024 * 1024
  /-- Whether details are noted. -/
  detailed : Bool := false

structure Outcome where
  record : ScriptRecord
  candidates : List (List Char) := []
  notes : List Note := []

/-- A note of a detail, if details are noted. -/
def Options.detail (options : Options) (text : String) : List Note :=
  if options.detailed then [⟨.detail, text⟩] else []

/-- An origin with all its parts, as it is shown for a script that was left out. -/
def describe : Origin → String
  | .external url => "External \x7b url: " ++ Text.quotedText url ++ " \x7d"
  | .inline index => "Inline \x7b index: " ++ toString index ++ " \x7d"

def scanDetail (origin : Origin) (scan : Script.Scan) : String :=
  if scan.status = .failed then
    "Failed to parse " ++ origin.label ++ " (" ++ toString scan.faults
      ++ " errors), no URLs taken from it"
  else
    "Extracted " ++ toString scan.candidates.length ++ " URL literals from AST: " ++ origin.label

/-- Read code that is at hand. -/
def Outcome.ofCode (options : Options) (origin : Origin) (code : List Char) : Outcome :=
  let bytes := (Text.Utf8.encode code).length
  let digest := some (Digest.ofText code)
  if options.maxScriptBytes < bytes then
    { record := { origin, bytes, digest, fate := .tooLarge }
      notes := options.detail
        ("Skipping large script (" ++ toString bytes ++ " bytes): " ++ describe origin) }
  else
    let scan := Script.scan code
    { record := { origin, bytes, digest, fate := .parsed scan.status,
                  candidates := scan.candidates.length }
      candidates := scan.candidates.map String.toList
      notes := options.detail (scanDetail origin scan) }

def Outcome.ofFailure (url : String) (failure : Fetch.Failure) : Outcome :=
  { record := { origin := .external url, fate := .fetchFailed failure.message }
    notes := [⟨.warning, "Error loading script " ++ url ++ ": " ++ failure.message⟩] }

/-- Do a job. Code that is in the page takes no time. -/
def Job.outcome (options : Options) (source : Fetch.Source) : Job → Timed Outcome
  | .inline index text => ⟨0, .ofCode options (.inline index) text⟩
  | .external url =>
    let answer := source.within options.fetchTimeout url.toString
    let outcome : Outcome :=
      match answer.value.body with
      | .ok code => .ofCode options (.external url.toString) code
      | .error failure => .ofFailure url.toString failure
    ⟨answer.span, { outcome with notes := answer.value.notes ++ outcome.notes }⟩

/-- The URL that a job asks for. -/
def Job.url? : Job → Option String
  | .external url => some url.toString
  | .inline _ _ => none

end LinkSurvey.Survey
