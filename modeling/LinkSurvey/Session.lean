import LinkSurvey.CommandLine
import LinkSurvey.Console.Narration
import LinkSurvey.Fetch.Retry
import LinkSurvey.Survey.Document
import LinkSurvey.Targets
import LinkSurvey.Text.Quoted

/-!
A run of the program from its command line to its exit code. The links of all targets together go to one
place; the reports go to a file if there is one for them. A file that cannot be written ends the run, and
a run in which no page could be loaded fails in the end.
-/

namespace LinkSurvey

/-- All that a run leaves behind. -/
structure Session where
  exitCode : UInt32 := 0
  stdout : String := ""
  stderr : String := ""
  folder : Folder

namespace Settings

/-- How much a note must matter to be logged. -/
def logLevel (s : Settings) : Level :=
  if s.verbose then .detail else if s.quiet then .error else .information

def console (s : Settings) : Console :=
  { verbose := s.verbose, quiet := s.quiet }

end Settings

namespace Session

/-- A run that ended with an error after it had told `told`. -/
def failed (folder : Folder) (told error : String) : Session :=
  { exitCode := 1, stderr := told ++ (Note.mk .error error).line .error, folder }

/-- The links of all reports. -/
def allUrls (reports : List TimedReport) : UrlSet :=
  reports.foldl (fun urls r => urls.union r.urls) .empty

/-- The document for the list of links in a file. -/
def listing (format : OutputFormat) (urls : UrlSet) : List Char :=
  if format = .json then urls.toJson.text else urls.lines

/-- Write a file and tell of it, or say why not. -/
def store (settings : Settings) (what : String) (path : String) (text : List Char) (folder : Folder) :
    Except FileError (Folder × String) :=
  (folder.writeText path.toList text).map fun folder =>
    (folder, (Note.mk .information (what ++ " written to: " ++ Text.quotedPath path)).line
      settings.logLevel)

/-- Write the reports if they are asked for. -/
def storeReports (settings : Settings) (reports : List TimedReport) (folder : Folder) :
    Except FileError (Folder × String) :=
  match settings.report with
  | none => .ok (folder, "")
  | some path => store settings "Report" path (TimedReport.document reports).text folder

/-- Write the list of links if it goes to a file. -/
def storeListing (settings : Settings) (urls : UrlSet) (folder : Folder) :
    Except FileError (Folder × String) :=
  match settings.outputPath? with
  | none => .ok (folder, "")
  | some path =>
    (store settings "Results" path (listing settings.output urls) folder).map fun (folder, told) =>
      (folder, told ++ settings.console.info (toString urls.size ++ " unique URLs collected"))

/-- Deliver the results of a run that has told `told` so far. -/
def deliver (settings : Settings) (folder : Folder) (told : String) (reports : List TimedReport) :
    Session :=
  let urls := allUrls reports
  match storeReports settings reports folder with
  | .error e => failed folder told ("Failed to write report file: " ++ e.message)
  | .ok (folder, toldReports) =>
    match storeListing settings urls folder with
    | .error e => failed folder (told ++ toldReports) ("Failed to write output file: " ++ e.message)
    | .ok (folder, toldListing) =>
      let told := told ++ toldReports ++ toldListing
      let session :=
        if reports.all fun r => !r.pageLoaded then failed folder told "No target could be loaded"
        else { stderr := told, folder }
      if settings.outputPath?.isSome then session
      else { session with stdout := String.ofList urls.lines }

/-- Survey the targets and deliver what was found. -/
def survey (settings : Settings) (folder : Folder) (network : Fetch.Network)
    (targets : List String) : Session :=
  let surveys := Survey.pages settings.surveyOptions (settings.client.source network)
    settings.parallel.toNat targets
  let banner := if settings.noBanner then "" else settings.console.banner
  let told := banner ++ settings.console.narration settings.logLevel (Survey.notices surveys)
  deliver settings folder told (Survey.reports surveys)

/-- A run with given settings. -/
def run (settings : Settings) (folder : Folder) (network : Fetch.Network) : Session :=
  match Targets.load folder settings with
  | .error e => failed folder "" ("Failed to load targets: " ++ e.message)
  | .ok [] => failed folder "" "No targets specified. Use positional arguments or -f <file>."
  | .ok targets =>
    match settings.client.check with
    | .error e => failed folder "" ("Failed to create HTTP client: " ++ e.message)
    | .ok () => survey settings folder network targets

/-- A command line that leads to no run: what was asked for goes to the output, a fault does not. -/
def refused (folder : Folder) (fromEnvironment : Option String) (refusal : CommandLine.Refusal) :
    Session :=
  let text := refusal.message fromEnvironment
  if refusal.exitCode = 0 then { stdout := text, folder }
  else { exitCode := refusal.exitCode, stderr := text, folder }

/-- A run with the given arguments and the user agent of the environment. -/
def ofArguments (fromEnvironment : Option String) (args : List String) (folder : Folder)
    (network : Fetch.Network) : Session :=
  match CommandLine.read fromEnvironment args with
  | .error refusal => refused folder fromEnvironment refusal
  | .ok settings => run settings folder network

end Session

end LinkSurvey
