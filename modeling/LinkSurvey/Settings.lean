import LinkSurvey.CommandLine.Switch
import LinkSurvey.Fetch.Budget
import LinkSurvey.Survey.Outcome

/-!
The settings of a run, and what follows from them.
-/

namespace LinkSurvey

structure Settings where
  targets : List String := []
  /-- A file with more targets. -/
  file : Option String := none
  output : OutputFormat := .console
  outputFile : Option String := none
  report : Option String := none
  timeout : UInt64 := 30
  maxRetries : UInt32 := 2
  rateLimit : UInt32 := 10
  userAgent : Option String := none
  concurrency : UInt64 := 8
  parallel : UInt64 := 1
  verbose : Bool := false
  quiet : Bool := false
  noBanner : Bool := false
  deriving DecidableEq, Repr

/-- The file that a format goes to if no other is named. -/
def OutputFormat.defaultFile? : OutputFormat → Option String
  | .console => none
  | .json => some "output.json"
  | .text => some "output.text"

namespace Settings

/-- The file that the list of links is written to, if the format is one of files. -/
def outputPath? (s : Settings) : Option String :=
  if s.output = .console then none else s.outputFile <|> s.output.defaultFile?

def defaultUserAgent : String :=
  "Mozilla/5.0 (Windows NT 10.0; Win64; x64) AppleWebKit/537.36 (KHTML, like Gecko) "
    ++ "Chrome/120.0.0.0 Safari/537.36"

def client (s : Settings) : Fetch.Client :=
  { timeoutSecs := s.timeout
    maxRetries := s.maxRetries
    userAgent := s.userAgent.getD defaultUserAgent }

/-- Retries happen within one fetch, so the limit to a fetch leaves time for all of them. -/
def surveyOptions (s : Settings) : Survey.Options :=
  { concurrency := max s.concurrency.toNat 1
    fetchTimeout := Fetch.budget s.client
    detailed := s.verbose }

end Settings

end LinkSurvey
