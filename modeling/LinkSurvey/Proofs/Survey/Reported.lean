import LinkSurvey.Proofs.Survey.Pages
import LinkSurvey.Proofs.Survey.Report
import LinkSurvey.Proofs.UrlSet.Gated

/-!
What the survey of a target can come to, whatever it is answered with. A survey asks once for its page and once
for each script, so what it finds is told by one body and one source, even if a server answers the next request
for the same URL in another way. The links of every report are those that passed the gate.
-/

namespace LinkSurvey.Survey

/-- The reports that there can be of a target: it is no URL, it could not be loaded for some reason, or it was
answered with some page, whose scripts came from some source. -/
inductive Reported (options : Options) (target : String) : PageReport → Prop where
  | invalid {e : UrlError} (htarget : Url.parse target = .error e) :
      Reported options target (invalidTarget target e).report
  | failed {base : Url} (htarget : Url.parse target = .ok base) (failure : Fetch.Failure) :
      Reported options target (loadFailure target base.toString 0 failure).report
  | loaded {base : Url} (htarget : Url.parse target = .ok base) (source : Fetch.Source) (body : List Char) :
      Reported options target (reportOf options source target base body)

variable {options : Options} {target : String}

theorem gated_addOutcomes {base : Url} (hbase : base.Read) {report : PageReport} (hreport : report.urls.Gated)
    (os : List Outcome) : (os.foldl (addOutcome base) report).urls.Gated := by
  induction os generalizing report with
  | nil => exact hreport
  | cons o os ih => exact ih (.offerAll hreport hbase o.candidates)

theorem gated_markupLinks {base : Url} (hbase : base.Read) (page : Markup.Scan) : (markupLinks base page).Gated :=
  .offerAll (.offerAll .empty hbase page.candidates) hbase (Markup.inlineCandidates page.tree)

theorem Reported.gated {report : PageReport} (h : Reported options target report) : report.urls.Gated := by
  cases h with
  | invalid htarget => exact .empty
  | failed htarget failure => exact .empty
  | @loaded base htarget source body =>
      have hbase : base.Read := .parse htarget
      have hmarkup := gated_markupLinks hbase (Markup.scan body)
      simp only [reportOf]
      generalize Markup.scan body = page at hmarkup ⊢
      exact gated_addOutcomes hbase hmarkup _

theorem reported_findings (options : Options) (source : Fetch.Source) (target : String) :
    Reported options target (findings options source target).1 := by
  rw [findings]
  cases htarget : Url.parse target with
  | error e => exact .invalid htarget
  | ok base =>
      dsimp only
      cases (source.within options.fetchTimeout (String.ofList base.text)).value.body with
      | ok body =>
          dsimp only
          exact .loaded htarget source body
      | error failure => exact .failed htarget failure

/-- Surveys side by side come to a report of each target, in their order. -/
theorem reported_pages (options : Options) (source : Fetch.Source) (parallel : Nat) (targets : List String) :
    List.Forall₂ (fun target (r : TimedReport) => Reported options target r.toPageReport) targets
      (reports (pages options source parallel targets)) := by
  rw [reports_pages, List.forall₂_map_right_iff, List.forall₂_same]
  intro target _
  rw [toPageReport_timedReport, page, report_pageIn]
  exact reported_findings options source target

end LinkSurvey.Survey
