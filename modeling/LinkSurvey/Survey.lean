import LinkSurvey.Survey.Notice
import LinkSurvey.Window

/-!
The survey of a page: fetch it, collect the links of its markup, of its inline blocks and of its scripts,
and report. Every link is resolved against the page, also those that a script of another site holds.
Nothing that fails ends a survey, apart from the page itself.

Scripts of a page, and pages of a list, are worked through side by side in a window. Time passes only
while a body is waited for.
-/

namespace LinkSurvey.Survey

/-- A survey with all that can be seen of it: its findings, the URLs it asked for in that order, and
its notices. -/
structure Run where
  report : PageReport
  calls : List String := []
  notices : List (Dated Notice) := []

/-- What a script adds to a report. -/
def addOutcome (base : Url) (report : PageReport) (outcome : Outcome) : PageReport :=
  { report with
    urls := (report.urls.offerAll base outcome.candidates).1
    errors := match outcome.record.fate with
      | .fetchFailed error => report.errors ++ ["Failed to load script: " ++ error]
      | _ => report.errors
    scripts := report.scripts ++ [outcome.record] }

/-- The scripts of a page, worked through from the time `start` on. -/
def runJobs (order : Window.Order Job Outcome) (options : Options) (source : Fetch.Source)
    (start : Nat) (jobs : List Job) : Window.State Job Outcome :=
  Window.run order options.concurrency (Job.outcome options source) start jobs

/-- The notes on a script come when its job is finished. -/
def jobNotices (s : Window.State Job Outcome) : List (Dated Notice) :=
  Dated.inOrder (s.delivered.flatMap fun f => f.value.notes.map fun n => ⟨f.due, .note n⟩)

/-- The notices of a page that was loaded at the time `now`. -/
def bodyNotices (options : Options) (base : Url) (now : Nat) (page : Markup.Scan)
    (fromMarkup fromInline : Nat) (finished : Window.State Job Outcome) : List (Dated Notice) :=
  let scripts := Markup.scripts page.tree
  notesAt now (unresolvable options base page.candidates)
    ++ notesAt now (unresolvable options base (Markup.inlineCandidates page.tree))
    ++ [⟨now, .progress ("Markup gave " ++ toString fromMarkup ++ " URLs, inline blocks "
        ++ toString fromInline ++ " more")⟩]
    ++ notesAt now (unfetched options base scripts)
    ++ [⟨now, .progress ("Scanning " ++ toString (plan base scripts).length ++ " scripts...")⟩]
    ++ jobNotices finished
    ++ notesAt finished.now
      (finished.values.flatMap fun outcome => unresolvable options base outcome.candidates)

/-- The survey of a page that was loaded at the time `now`. -/
def ofBody (order : Window.Order Job Outcome) (options : Options) (source : Fetch.Source)
    (target : String) (base : Url) (now : Nat) (body : List Char) : Timed Run :=
  let page := Markup.scan body
  let (urls, fromMarkup) := UrlSet.empty.offerAll base page.candidates
  let (urls, fromInline) := urls.offerAll base (Markup.inlineCandidates page.tree)
  let finished := runJobs order options source now (plan base (Markup.scripts page.tree))
  ⟨finished.now,
    { report := finished.values.foldl (addOutcome base) { target, urls, markup := some page.status }
      calls := finished.launched.filterMap Job.url?
      notices := bodyNotices options base now page fromMarkup fromInline finished }⟩

/-- A survey that ended with the page itself. -/
def ofError (target error : String) (notices : List (Dated Notice)) : Run :=
  { report := { target, errors := [error] }, notices }

def invalidTarget (target : String) (e : UrlError) : Run :=
  let error := "Invalid target URL " ++ target ++ ": " ++ e.message
  ofError target error [⟨0, .note ⟨.warning, error⟩⟩]

def loadFailure (target url : String) (now : Nat) (failure : Fetch.Failure) : Run :=
  ofError target ("Failed to load page: " ++ failure.message)
    [⟨now, .note ⟨.warning, "Error loading page " ++ url ++ ": " ++ failure.message⟩⟩]

/-- The survey of a target, without the notices of its start and end. -/
def ofTarget (order : Window.Order Job Outcome) (options : Options) (source : Fetch.Source)
    (target : String) : Timed Run :=
  match Url.parse target with
  | .error e => ⟨0, invalidTarget target e⟩
  | .ok base =>
    let url := String.ofList base.text
    let answer := source.within options.fetchTimeout url
    let run :=
      match answer.value.body with
      | .ok body => ofBody order options source target base answer.span body
      | .error failure => ⟨answer.span, loadFailure target url answer.span failure⟩
    { run with
      value := { run.value with
        calls := url :: run.value.calls
        notices := notesAt answer.span answer.value.notes ++ run.value.notices } }

/-- Nanoseconds as a number of seconds. -/
def secondsOf (nanos : Nat) : Float :=
  (nanos / 1000000000).toFloat + (nanos % 1000000000).toFloat / 1000000000

def Run.timedReport (run : Run) (span : Nat) : TimedReport :=
  { run.report with seconds := secondsOf span }

/-- The survey of a target, in which the scripts of the page finish in any order. -/
def pageIn (order : Window.Order Job Outcome) (options : Options) (source : Fetch.Source)
    (target : String) : Timed Run :=
  let run := ofTarget order options source target
  { run with
    value := { run.value with
      notices := ⟨0, .start target⟩ :: run.value.notices
        ++ [⟨run.span, .done (run.value.timedReport run.span)⟩] } }

/-- The survey of a target by the clock. -/
def page (options : Options) (source : Fetch.Source) (target : String) : Timed Run :=
  pageIn Window.clock options source target

/-- The URLs found on a page and in its scripts; none if it cannot be loaded. -/
def extract (options : Options) (source : Fetch.Source) (target : String) : UrlSet :=
  (page options source target).value.report.urls

/-- The surveys of several targets, at most `parallel` of them at the same time. -/
def pages (options : Options) (source : Fetch.Source) (parallel : Nat) (targets : List String) :
    Window.State String Run :=
  Window.run Window.clock parallel (page options source) 0 targets

def reports (surveys : Window.State String Run) : List TimedReport :=
  surveys.delivered.map fun f => f.value.timedReport (f.due - f.started)

/-- The notices of all surveys on the common clock. -/
def notices (surveys : Window.State String Run) : List (Dated Notice) :=
  Dated.inOrder (surveys.delivered.flatMap fun f => f.value.notices.map (Dated.later f.started))

end LinkSurvey.Survey
