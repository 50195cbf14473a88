import LinkSurvey.Proofs.Survey.Plan
import LinkSurvey.Proofs.Window
import LinkSurvey.Survey

/-!
What a survey of a page finds. Its scripts are worked through side by side, but what they give is taken up
in the order of the page, and each of them is given the same time from its own start. So the findings are
those of working through the scripts one after another; and the links among them are exactly those that
stand for a candidate of the markup, of the inline blocks or of the code that is read.
-/

namespace LinkSurvey.Survey

open Gate

/-! ### One script after another -/

/-- The links of a page without its scripts. -/
def markupLinks (base : Url) (page : Markup.Scan) : UrlSet :=
  ((UrlSet.empty.offerAll base page.candidates).1.offerAll base (Markup.inlineCandidates page.tree)).1

/-- What the jobs of a page give, one after another. -/
def outcomes (options : Options) (source : Fetch.Source) (jobs : List Job) : List Outcome :=
  jobs.map fun job => (job.outcome options source).value

/-- The report of a page whose scripts are worked through one after another. -/
def reportOf (options : Options) (source : Fetch.Source) (target : String) (base : Url) (body : List Char) :
    PageReport :=
  let page := Markup.scan body
  (outcomes options source (plan base (Markup.scripts page.tree))).foldl (addOutcome base)
    { target, urls := markupLinks base page, markup := some page.status }

/-- The URLs that are asked for after that of the page. -/
def scriptCalls (base : Url) (body : List Char) : List String :=
  (plan base (Markup.scripts (Markup.scan body).tree)).filterMap Job.url?

variable (order : Window.Order Job Outcome) (options : Options) (source : Fetch.Source)

theorem ofBody_report (target : String) (base : Url) (now : Nat) (body : List Char) :
    (ofBody order options source target base now body).value.report
      = reportOf options source target base body := by
  simp only [ofBody, runJobs, Window.run_values]
  rfl

theorem ofBody_calls (target : String) (base : Url) (now : Nat) (body : List Char) :
    (ofBody order options source target base now body).value.calls = scriptCalls base body := by
  simp only [ofBody, runJobs, Window.run_launched]
  rfl

/-- The report of a target and the URLs that are asked for, with one script after another. -/
def findings (target : String) : PageReport × List String :=
  match Url.parse target with
  | .error e => ((invalidTarget target e).report, [])
  | .ok base =>
    let url := String.ofList base.text
    match (source.within options.fetchTimeout url).value.body with
    | .ok body => (reportOf options source target base body, url :: scriptCalls base body)
    | .error failure => ((loadFailure target url 0 failure).report, [url])

/-- In whatever order scripts finish, a survey finds what it would find with one script after another. -/
theorem pageIn_findings (target : String) :
    ((pageIn order options source target).value.report, (pageIn order options source target).value.calls)
      = findings options source target := by
  simp only [pageIn, ofTarget, findings]
  cases Url.parse target with
  | error e => rfl
  | ok base =>
      dsimp only
      cases (source.within options.fetchTimeout (String.ofList base.text)).value.body with
      | error failure => rfl
      | ok body =>
          dsimp only
          rw [ofBody_report, ofBody_calls]

theorem outcome_concurrency (width : Nat) :
    Job.outcome { options with concurrency := width } source = Job.outcome options source := by
  funext job
  cases job with
  | inline index text => rfl
  | external url => rfl

theorem findings_concurrency (width : Nat) (target : String) :
    findings { options with concurrency := width } source target = findings options source target := by
  have hreport : ∀ base body, reportOf { options with concurrency := width } source target base body
      = reportOf options source target base body := by
    intro base body
    simp only [reportOf, outcomes, outcome_concurrency]
  simp only [findings, hreport]

/-- How many scripts are under way at the same time, and in what order they finish, changes neither the
report of a page nor what is asked for: both are as with one script after another. -/
theorem pageIn_concurrency (other : Window.Order Job Outcome) (width width' : Nat) (target : String) :
    (pageIn order { options with concurrency := width } source target).value.report
        = (pageIn other { options with concurrency := width' } source target).value.report
      ∧ (pageIn order { options with concurrency := width } source target).value.calls
        = (pageIn other { options with concurrency := width' } source target).value.calls
      ∧ ((pageIn order { options with concurrency := width } source target).value.report,
          (pageIn order { options with concurrency := width } source target).value.calls)
        = findings options source target := by
  have hfirst := pageIn_findings order { options with concurrency := width } source target
  have hsecond := pageIn_findings other { options with concurrency := width' } source target
  rw [findings_concurrency] at hfirst hsecond
  obtain ⟨hreport, hcalls⟩ := Prod.mk.inj (hfirst.trans hsecond.symm)
  exact ⟨hreport, hcalls, hfirst⟩

/-! ### The links -/

/-- A candidate found on a page: in its markup, in an inline block, or in the code of a script. -/
inductive Candidate (options : Options) (source : Fetch.Source) (base : Url) (body : List Char) :
    List Char → Prop where
  | markup {c : List Char} (h : c ∈ (Markup.scan body).candidates) : Candidate options source base body c
  | inlineBlock {c : List Char} (h : c ∈ Markup.inlineCandidates (Markup.scan body).tree) :
      Candidate options source base body c
  | script {code c : List Char} (hcode : Code options source base (Markup.scripts (Markup.scan body).tree) code)
      (h : CodeCandidate options code c) : Candidate options source base body c

section Links

variable {options source} {base : Url} (hbase : base.Read)
include hbase

theorem mem_markupLinks {page : Markup.Scan} {u : WebUrl} :
    u ∈ (markupLinks base page).members ↔
      ∃ c, (c ∈ page.candidates ∨ c ∈ Markup.inlineCandidates page.tree) ∧ normalize base c = .ok u := by
  have hempty := UrlSet.isNormal_empty
  have hmarkup := UrlSet.isNormal_offerAll hbase hempty page.candidates
  rw [markupLinks, UrlSet.mem_offerAll hbase hmarkup, UrlSet.mem_offerAll hbase hempty]
  simp only [UrlSet.empty, List.not_mem_nil, false_or, or_and_right, exists_or]

theorem isNormal_markupLinks (page : Markup.Scan) : (markupLinks base page).IsNormal :=
  UrlSet.isNormal_offerAll hbase (UrlSet.isNormal_offerAll hbase UrlSet.isNormal_empty _) _

/-- Outcomes add to a report the links that their candidates stand for. -/
theorem mem_addOutcomes {report : PageReport} (hreport : report.urls.IsNormal) {os : List Outcome}
    {u : WebUrl} :
    u ∈ (os.foldl (addOutcome base) report).urls.members ↔
      u ∈ report.urls.members ∨ ∃ o ∈ os, ∃ c ∈ o.candidates, normalize base c = .ok u := by
  induction os generalizing report with
  | nil => simp
  | cons o os ih =>
      have hnext : (addOutcome base report o).urls.IsNormal :=
        UrlSet.isNormal_offerAll hbase hreport o.candidates
      rw [List.foldl_cons, ih hnext, addOutcome, UrlSet.mem_offerAll hbase hreport, or_assoc]
      simp only [List.mem_cons, exists_eq_or_imp]

theorem mem_reportOf (target : String) (body : List Char) (u : WebUrl) :
    u ∈ (reportOf options source target base body).urls.members ↔
      ∃ c, Candidate options source base body c ∧ normalize base c = .ok u := by
  have hscripts : (∃ o ∈ outcomes options source (plan base (Markup.scripts (Markup.scan body).tree)),
        ∃ c ∈ o.candidates, normalize base c = .ok u) ↔
      ∃ c, (∃ code, Code options source base (Markup.scripts (Markup.scan body).tree) code
        ∧ CodeCandidate options code c) ∧ normalize base c = .ok u := by
    constructor
    · rintro ⟨o, ho, c, hc, hu⟩
      obtain ⟨job, hjob, rfl⟩ := List.mem_map.1 ho
      exact ⟨c, (mem_candidates_plan hbase options source _ c).1 ⟨job, hjob, hc⟩, hu⟩
    · rintro ⟨c, hcode, hu⟩
      obtain ⟨job, hjob, hc⟩ := (mem_candidates_plan hbase options source _ c).2 hcode
      exact ⟨_, List.mem_map_of_mem hjob, c, hc, hu⟩
  rw [reportOf, mem_addOutcomes hbase (isNormal_markupLinks hbase _), hscripts, mem_markupLinks hbase]
  constructor
  · rintro (⟨c, hc | hc, hu⟩ | ⟨c, ⟨code, hcode, hc⟩, hu⟩)
    · exact ⟨c, .markup hc, hu⟩
    · exact ⟨c, .inlineBlock hc, hu⟩
    · exact ⟨c, .script hcode hc, hu⟩
  · rintro ⟨c, hc, hu⟩
    cases hc with
    | markup h => exact Or.inl ⟨c, Or.inl h, hu⟩
    | inlineBlock h => exact Or.inl ⟨c, Or.inr h, hu⟩
    | script hcode h => exact Or.inr ⟨c, ⟨_, hcode, h⟩, hu⟩

omit hbase in
/-- The links that a survey finds on a page that arrives in time are those that a candidate found on the page
stands for, seen from the page. -/
theorem mem_pageIn_urls (order : Window.Order Job Outcome) {target : String}
    (htarget : Url.parse target = .ok base) {body : List Char}
    (hbody : source.Delivers options.fetchTimeout base.toString body) (u : WebUrl) :
    u ∈ (pageIn order options source target).value.report.urls.members ↔
      ∃ c, Candidate options source base body c ∧ normalize base c = .ok u := by
  have hfindings := congrArg Prod.fst (pageIn_findings order options source target)
  have hanswer : (source.within options.fetchTimeout (String.ofList base.text)).value.body = .ok body :=
    (source.body_within _ _ body).2 hbody
  dsimp only at hfindings
  rw [hfindings, findings, htarget]
  simp only [hanswer]
  exact mem_reportOf (.parse htarget) target body u

end Links

/-- The markup `<script src=s>`. -/
def loopbackMarkup : List Char :=
  ['<', 's', 'c', 'r', 'i', 'p', 't', ' ', 's', 'r', 'c', '=', 's', '>']

/-- The script `'http://[::1]/d'`. -/
def loopbackScript : List Char :=
  ['\'', 'h', 't', 't', 'p', ':', '/', '/', '[', ':', ':', '1', ']', '/', 'd', '\'']

def loopbackSource : Fetch.Source := fun url =>
  if url = "http://[::1]/a/s" then ⟨1, { body := .ok loopbackScript }⟩ else ⟨2, { body := .ok loopbackMarkup }⟩

theorem mem_pageIn_urls_loopback :
    Url.parse loopbackPage.toString = .ok loopbackPage
      ∧ loopbackSource.Delivers ({} : Options).fetchTimeout loopbackPage.toString loopbackMarkup
      ∧ ⟨{ loopbackPage with path := .segments [['d']] }, rfl⟩ ∈
        (pageIn Window.clock {} loopbackSource loopbackPage.toString).value.report.urls.members := by
  have htarget : Url.parse loopbackPage.toString = .ok loopbackPage := by
    rw [Url.parse, Url.toString, String.toList_ofList]
    rfl
  have hbody : loopbackSource.Delivers ({} : Options).fetchTimeout loopbackPage.toString loopbackMarkup :=
    ⟨by decide +kernel, by decide +kernel⟩
  have hscript : Markup.Script.external ['s'] ∈ Markup.scripts (Markup.scan loopbackMarkup).tree := by
    decide +kernel
  have hurl : normalize loopbackPage ['s'] =
      .ok ⟨{ loopbackPage with path := .segments [['a'], ['s']] }, rfl⟩ := rfl
  have hcode : loopbackSource.Delivers ({} : Options).fetchTimeout
      (⟨{ loopbackPage with path := .segments [['a'], ['s']] }, rfl⟩ : WebUrl).toString loopbackScript :=
    ⟨by decide +kernel, by decide +kernel⟩
  have hcandidate : CodeCandidate {} loopbackScript "http://[::1]/d".toList :=
    ⟨by decide +kernel, "http://[::1]/d", by decide +kernel, rfl⟩
  have hlink : normalize loopbackPage "http://[::1]/d".toList =
      .ok ⟨{ loopbackPage with path := .segments [['d']] }, rfl⟩ := by
    decide +kernel
  exact ⟨htarget, hbody, (mem_pageIn_urls Window.clock htarget hbody _).2
    ⟨_, .script (.external hscript hurl hcode) hcandidate, hlink⟩⟩

end LinkSurvey.Survey
