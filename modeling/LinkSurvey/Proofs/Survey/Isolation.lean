import LinkSurvey.Proofs.Survey.Report
import Mathlib.Data.List.Forall2

/-!
A failure stays where it is. Two surveys of a page are compared, of which the second one gets no answer for
some of the script URLs. Their plans are the same, and a job asks for nothing but its own URL; so the second
report is the first one with the records of those scripts replaced and the links left out that only they gave.
-/

namespace LinkSurvey

open Gate

/-- The other source answers like the first one, except that it gives no body for `lost` in time. -/
structure Fetch.Source.Loses (source other : Fetch.Source) (limit : Fetch.Span) (lost : Set String) : Prop where
  same : ∀ url ∉ lost, other url = source url
  silent : ∀ url ∈ lost, ∀ body, ¬other.Delivers limit url body

namespace Survey

variable {options : Options} {source other : Fetch.Source} {lost : Set String}

theorem delivers_iff_of_loses (h : source.Loses other options.fetchTimeout lost) {url : String}
    {code : List Char} :
    other.Delivers options.fetchTimeout url code ↔ url ∉ lost ∧ source.Delivers options.fetchTimeout url code := by
  constructor
  · intro hcode
    have hkept : url ∉ lost := fun hlost => h.silent url hlost code hcode
    rw [Fetch.Source.Delivers, h.same url hkept] at hcode
    exact ⟨hkept, hcode⟩
  · rintro ⟨hkept, hcode⟩
    rw [Fetch.Source.Delivers, h.same url hkept]
    exact hcode

/-! ### Records -/

/-- A job does not see what other URLs are answered with. -/
theorem record_of_loses (h : source.Loses other options.fetchTimeout lost) {job : Job}
    (hjob : ∀ url ∈ lost, job.origin ≠ .external url) : job.record options other = job.record options source := by
  cases job with
  | inline index text => rfl
  | external url =>
      have hkept : url.toString ∉ lost := fun hlost => hjob _ hlost rfl
      have hanswer : other.within options.fetchTimeout url.toString
          = source.within options.fetchTimeout url.toString := by
        rw [Fetch.Source.within, h.same _ hkept]
        rfl
      rw [Job.record, Job.outcome, hanswer]
      rfl

/-- The records of the same jobs, one by one. -/
theorem records_of_loses (h : source.Loses other options.fetchTimeout lost) (jobs : List Job) :
    List.Forall₂ (fun r r' => r'.origin = r.origin ∧ ((∀ url ∈ lost, r.origin ≠ .external url) → r' = r))
      (jobs.map (Job.record options source)) (jobs.map (Job.record options other)) := by
  rw [List.forall₂_map_left_iff, List.forall₂_map_right_iff, List.forall₂_same]
  intro job _
  rw [origin_record, origin_record]
  exact ⟨rfl, record_of_loses h⟩

/-! ### Links -/

/-- A candidate of a page that does not come from a script at one of the URLs `lost`. -/
inductive SparedCandidate (options : Options) (source : Fetch.Source) (base : Url) (body : List Char)
    (lost : Set String) : List Char → Prop where
  | markup {c : List Char} (h : c ∈ (Markup.scan body).candidates) : SparedCandidate options source base body lost c
  | inlineBlock {c : List Char} (h : c ∈ Markup.inlineCandidates (Markup.scan body).tree) :
      SparedCandidate options source base body lost c
  | inlineScript {code c : List Char} (hscript : .inline code ∈ Markup.scripts (Markup.scan body).tree)
      (h : CodeCandidate options code c) : SparedCandidate options source base body lost c
  | externalScript {reference code c : List Char} {url : WebUrl}
      (hscript : .external reference ∈ Markup.scripts (Markup.scan body).tree)
      (hurl : normalize base reference = .ok url) (hspared : url.toString ∉ lost)
      (hcode : source.Delivers options.fetchTimeout url.toString code) (h : CodeCandidate options code c) :
      SparedCandidate options source base body lost c

variable {base : Url} {body : List Char}

theorem SparedCandidate.candidate {c : List Char} (h : SparedCandidate options source base body lost c) :
    Candidate options source base body c := by
  cases h with
  | markup h => exact .markup h
  | inlineBlock h => exact .inlineBlock h
  | inlineScript hscript h => exact .script (.inline hscript) h
  | externalScript hscript hurl _ hcode h => exact .script (.external hscript hurl hcode) h

/-- The candidates of the second survey. -/
theorem candidate_iff_of_loses (h : source.Loses other options.fetchTimeout lost) {c : List Char} :
    Candidate options other base body c ↔ SparedCandidate options source base body lost c := by
  constructor
  · intro hc
    cases hc with
    | markup h => exact .markup h
    | inlineBlock h => exact .inlineBlock h
    | script hcode hc =>
        cases hcode with
        | inline hscript => exact .inlineScript hscript hc
        | external hscript hurl hcode =>
            obtain ⟨hspared, hcode⟩ := (delivers_iff_of_loses h).1 hcode
            exact .externalScript hscript hurl hspared hcode hc
  · intro hc
    cases hc with
    | markup h => exact .markup h
    | inlineBlock h => exact .inlineBlock h
    | inlineScript hscript hc => exact .script (.inline hscript) hc
    | externalScript hscript hurl hspared hcode hc =>
        exact .script (.external hscript hurl ((delivers_iff_of_loses h).2 ⟨hspared, hcode⟩)) hc

/-- Scripts that fail take with them their own records and the links that only they gave. -/
theorem pageIn_of_loses {target : String} (htarget : Url.parse target = .ok base)
    (hbody : source.Delivers options.fetchTimeout base.toString body) (hpage : base.toString ∉ lost)
    (h : source.Loses other options.fetchTimeout lost) (order order' : Window.Order Job Outcome) :
    let first := (pageIn order options source target).value.report
    let second := (pageIn order' options other target).value.report
    second.markup = first.markup
      ∧ List.Forall₂ (fun r r' => r'.origin = r.origin ∧ ((∀ url ∈ lost, r.origin ≠ .external url) → r' = r))
          first.scripts second.scripts
      ∧ ∀ u, u ∈ second.urls.members ↔
          u ∈ first.urls.members
            ∧ ∃ c, SparedCandidate options source base body lost c ∧ normalize base c = .ok u := by
  have hother : other.Delivers options.fetchTimeout base.toString body :=
    (delivers_iff_of_loses h).2 ⟨hpage, hbody⟩
  have hread : base.Read := .parse htarget
  dsimp only
  rw [report_pageIn_of_delivers options source order htarget hbody,
    report_pageIn_of_delivers options other order' htarget hother]
  refine ⟨?_, ?_, fun u => ?_⟩
  · rw [markup_reportOf, markup_reportOf]
  · rw [scripts_reportOf, scripts_reportOf]
    exact records_of_loses h _
  · rw [mem_reportOf hread, mem_reportOf hread]
    simp only [candidate_iff_of_loses h]
    constructor
    · rintro ⟨c, hc, hu⟩
      exact ⟨⟨c, hc.candidate, hu⟩, c, hc, hu⟩
    · exact And.right

/-- The source of the page, when its script comes a second too late. -/
def lateSource : Fetch.Source := fun url =>
  if url = "http://[::1]/a/s" then ⟨31000000000, { body := .ok loopbackScript }⟩ else loopbackSource url

theorem loses_lateSource :
    loopbackSource.Loses lateSource ({} : Options).fetchTimeout {"http://[::1]/a/s"} where
  same := fun _ hurl => if_neg hurl
  silent := by
    rintro url rfl body ⟨hspan, -⟩
    exact absurd hspan (by decide +kernel)

/-- What is left is the reference to the script. -/
theorem spared_loopback {c : List Char}
    (h : SparedCandidate {} loopbackSource loopbackPage loopbackMarkup {"http://[::1]/a/s"} c) : c = ['s'] := by
  have hmarkup : (Markup.scan loopbackMarkup).candidates = [['s']] := by decide +kernel
  have hinline : Markup.inlineCandidates (Markup.scan loopbackMarkup).tree = [] := by decide +kernel
  have hscripts : Markup.scripts (Markup.scan loopbackMarkup).tree = [.external ['s']] := by decide +kernel
  cases h with
  | markup h =>
      rw [hmarkup] at h
      exact List.mem_singleton.1 h
  | inlineBlock h =>
      rw [hinline] at h
      exact absurd h List.not_mem_nil
  | inlineScript hscript h =>
      rw [hscripts] at hscript
      exact absurd hscript (by simp)
  | externalScript hscript hurl hspared hcode h =>
      rw [hscripts, List.mem_singleton] at hscript
      cases hscript
      have hlink : normalize loopbackPage ['s'] =
          .ok ⟨{ loopbackPage with path := .segments [['a'], ['s']] }, rfl⟩ := rfl
      cases hlink.symm.trans hurl
      exact absurd rfl hspared

theorem pageIn_of_loses_loopback :
    Url.parse loopbackPage.toString = .ok loopbackPage
      ∧ loopbackSource.Delivers ({} : Options).fetchTimeout loopbackPage.toString loopbackMarkup
      ∧ loopbackPage.toString ∉ ({"http://[::1]/a/s"} : Set String)
      ∧ loopbackSource.Loses lateSource ({} : Options).fetchTimeout {"http://[::1]/a/s"}
      ∧ ⟨{ loopbackPage with path := .segments [['a'], ['s']] }, rfl⟩ ∈
        (pageIn Window.clock {} lateSource loopbackPage.toString).value.report.urls.members
      ∧ ⟨{ loopbackPage with path := .segments [['d']] }, rfl⟩ ∉
        (pageIn Window.clock {} lateSource loopbackPage.toString).value.report.urls.members := by
  have htarget : Url.parse loopbackPage.toString = .ok loopbackPage := by
    rw [Url.parse, Url.toString, String.toList_ofList]
    rfl
  have hbody : loopbackSource.Delivers ({} : Options).fetchTimeout loopbackPage.toString loopbackMarkup :=
    ⟨by decide +kernel, by decide +kernel⟩
  have hother : loopbackPage.toString ≠ "http://[::1]/a/s" := by decide +kernel
  have hpage : loopbackPage.toString ∉ ({"http://[::1]/a/s"} : Set String) := hother
  have hreference : ['s'] ∈ (Markup.scan loopbackMarkup).candidates := by decide +kernel
  have hlink : normalize loopbackPage ['s'] =
      .ok ⟨{ loopbackPage with path := .segments [['a'], ['s']] }, rfl⟩ := rfl
  obtain ⟨-, -, hurls⟩ :=
    pageIn_of_loses htarget hbody hpage loses_lateSource Window.clock Window.clock
  refine ⟨htarget, hbody, hpage, loses_lateSource, (hurls _).2 ⟨?_, _, .markup hreference, hlink⟩, fun h => ?_⟩
  · rw [report_pageIn_of_delivers _ _ _ htarget hbody]
    exact (mem_reportOf (.parse htarget) _ _ _).2 ⟨_, .markup hreference, hlink⟩
  · obtain ⟨-, c, hc, hlost⟩ := (hurls _).1 h
    rw [spared_loopback hc, hlink] at hlost
    exact absurd hlost (by decide)

end Survey

end LinkSurvey
