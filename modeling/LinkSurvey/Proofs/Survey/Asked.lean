import LinkSurvey.Proofs.Markup
import LinkSurvey.Proofs.Survey.Reported

/-!
What a survey asks for it also reports. A script is fetched from a source that is the value of a link attribute, and
both ways into the report lead through the same gate; so every link that is planned is among the links, whatever it is
answered with, and nothing that is found later takes it away. It is found there by its text if its host stands for
itself.
-/

namespace LinkSurvey

open Gate

/-- The sources of scripts are among the values of link attributes. -/
theorem Markup.source_mem_links {t : Html.Tree} {source : List Char} (h : .external source ∈ scripts t) :
    source ∈ links t := by
  obtain ⟨⟨i, e⟩, hnamed, hscript⟩ := List.mem_filterMap.1 h
  have hsource : source? e = some source := by
    dsimp only at hscript
    split at hscript
    next found hfound => rw [hfound, Script.external.inj (Option.some.inj hscript)]
    next =>
      obtain ⟨text, -, htext⟩ := Option.map_eq_some_iff.1 hscript
      cases htext
  have hattribute : e.attribute? "src" = some source := (Option.filter_eq_some_iff.1 hsource).1
  exact List.mem_flatMap.2 ⟨("script", "src"), by simp [linkAttributes],
    List.mem_filterMap.2 ⟨(i, e), hnamed, hattribute⟩⟩

namespace Survey

/-- The external scripts of a report are among its links, and so is what was asked for. The links find the URLs of
all these scripts exactly if the hosts of these stand for themselves. -/
structure ReportsAsked (asked : List String) (report : PageReport) : Prop where
  mem_record : ∀ record ∈ report.scripts, ∀ url, record.origin = .external url → url.toList ∈ report.urls.texts
  mem_asked : ∀ url ∈ asked, url.toList ∈ report.urls.texts
  contains_iff :
    (∀ record ∈ report.scripts, ∀ url, record.origin = .external url → report.urls.contains url.toList = true)
      ↔ ∀ record ∈ report.scripts, ∀ link ∈ report.urls.members, record.origin = .external link.toString →
          link.StandsForItself

variable {options : Options} {source : Fetch.Source} {target : String} {base : Url}

theorem ReportsAsked.of_isNormal {asked : List String} {report : PageReport} (hnormal : report.urls.IsNormal)
    (hrecord : ∀ record ∈ report.scripts, ∀ url, record.origin = .external url → url.toList ∈ report.urls.texts)
    (hasked : ∀ url ∈ asked, url.toList ∈ report.urls.texts) : ReportsAsked asked report where
  mem_record := hrecord
  mem_asked := hasked
  contains_iff := by
    constructor
    · intro hall record hmem link hlink horigin
      have hcontains := hall record hmem _ horigin
      rw [WebUrl.toString, String.toList_ofList] at hcontains
      exact (hnormal.contains_text_iff hlink).1 hcontains
    · intro hself record hmem url horigin
      obtain ⟨link, hlink, htext⟩ := List.mem_map.1 (hrecord record hmem url horigin)
      have hurl : link.toString = url := by rw [WebUrl.toString, htext, String.ofList_toList]
      rw [← htext]
      exact (hnormal.contains_text_iff hlink).2 (hself record hmem link hlink (hurl ▸ horigin))

theorem reportsAsked_failure (target error : String) : ReportsAsked [] { target, errors := [error] } :=
  .of_isNormal UrlSet.isNormal_empty nofun nofun

section Loaded

variable (options source) (htarget : Url.parse target = .ok base) (body : List Char)
include htarget

theorem mem_members_of_planned {url : WebUrl} (h : .external url ∈ plan base (Markup.scripts (Markup.scan body).tree)) :
    url ∈ (reportOf options source target base body).urls.members := by
  have hbase : base.Read := .parse htarget
  obtain ⟨reference, hscript, hurl⟩ := (external_mem_plan hbase).1 h
  have hlink : reference ∈ (Markup.scan body).candidates := Markup.source_mem_links hscript
  exact (mem_reportOf hbase target body url).2 ⟨reference, .markup hlink, hurl⟩

theorem reportsAsked_reportOf :
    ReportsAsked (scriptCalls base body) (reportOf options source target base body) := by
  have hreported : Reported options target (reportOf options source target base body) := .loaded htarget source body
  refine .of_isNormal hreported.gated.isNormal ?_ ?_
  · rw [scripts_reportOf]
    intro record hrecord url horigin
    obtain ⟨job, hjob, rfl⟩ := List.mem_map.1 hrecord
    rw [origin_record] at horigin
    cases job with
    | inline index text => cases horigin
    | external link =>
        have hmem := mem_members_of_planned options source htarget body hjob
        obtain rfl : link.toString = url := Origin.external.inj horigin
        rw [WebUrl.toString, String.toList_ofList]
        exact List.mem_map_of_mem hmem
  · intro url hurl
    obtain ⟨job, hjob, hjoburl⟩ := List.mem_filterMap.1 hurl
    cases job with
    | inline index text => cases hjoburl
    | external link =>
        have hmem := mem_members_of_planned options source htarget body hjob
        obtain rfl : link.toString = url := Option.some.inj hjoburl
        rw [WebUrl.toString, String.toList_ofList]
        exact List.mem_map_of_mem hmem

end Loaded

/-- A survey asks for the page, if its target is a URL, and then for nothing but links that it reports; and it reports
every external script as a link, whether the script was parsed, too large or not to be had; the links find it if its
host stands for itself. So it is whatever the page was answered with, even if one of the scripts is the page itself and
the answer is another one then. -/
theorem reportsAsked_pageIn (order : Window.Order Job Outcome) (options : Options) (source : Fetch.Source)
    (target : String) :
    (∃ asked, (pageIn order options source target).value.calls
          = ((Url.parse target).toOption.map Url.toString).toList ++ asked
        ∧ ReportsAsked asked (pageIn order options source target).value.report)
      ∧ ∀ base, Url.parse target = .ok base → ∀ now body,
        ReportsAsked (ofBody order options source target base now body).value.calls
          (ofBody order options source target base now body).value.report := by
  constructor
  · have hcalls : (pageIn order options source target).value.calls = (findings options source target).2 := by
      rw [← pageIn_findings order options source target]
    rw [report_pageIn, hcalls, findings]
    cases htarget : Url.parse target with
    | error e => exact ⟨[], rfl, reportsAsked_failure target _⟩
    | ok base =>
        dsimp only
        cases (source.within options.fetchTimeout (String.ofList base.text)).value.body with
        | error failure => exact ⟨[], rfl, reportsAsked_failure target _⟩
        | ok body =>
            dsimp only
            refine ⟨scriptCalls base body, ?_, reportsAsked_reportOf options source htarget body⟩
            rw [Except.toOption, Option.map_some, Option.toList_some, List.singleton_append, Url.toString]
  · intro base htarget now body
    rw [ofBody_report, ofBody_calls]
    exact reportsAsked_reportOf options source htarget body

/-- A page with a script that is not to be had. -/
def lackingSource : Fetch.Source := fun url =>
  if url = "http://[::1]/a/b" then ⟨2, { body := .ok loopbackMarkup }⟩
  else ⟨1, { body := .error (.status 404 url) }⟩

theorem reportsAsked_pageIn_lacking :
    Url.parse loopbackPage.toString = .ok loopbackPage
      ∧ ⟨.external "http://[::1]/a/s", 0, none, .fetchFailed "HTTP 404 from http://[::1]/a/s", 0⟩
        ∈ (pageIn Window.clock {} lackingSource loopbackPage.toString).value.report.scripts
      ∧ (pageIn Window.clock {} lackingSource loopbackPage.toString).value.report.urls.contains
          "http://[::1]/a/s".toList = true
      ∧ "http://[::1]/a/s".toList
        ∈ (ofBody Window.clock {} lackingSource loopbackPage.toString loopbackPage 2
          loopbackMarkup).value.report.urls.texts := by
  have htarget : Url.parse loopbackPage.toString = .ok loopbackPage := by
    rw [Url.parse, Url.toString, String.toList_ofList]
    rfl
  have hbody : lackingSource.Delivers ({} : Options).fetchTimeout loopbackPage.toString loopbackMarkup :=
    ⟨by decide +kernel, by decide +kernel⟩
  have hrecord : ⟨.external "http://[::1]/a/s", 0, none, .fetchFailed "HTTP 404 from http://[::1]/a/s", 0⟩
      ∈ (pageIn Window.clock {} lackingSource loopbackPage.toString).value.report.scripts := by
    rw [report_pageIn_of_delivers _ _ _ htarget hbody, scripts_reportOf]
    decide +kernel
  have hcall : "http://[::1]/a/s"
      ∈ (ofBody Window.clock {} lackingSource loopbackPage.toString loopbackPage 2 loopbackMarkup).value.calls := by
    rw [ofBody_calls]
    decide +kernel
  have hself : ∀ link ∈ (pageIn Window.clock {} lackingSource loopbackPage.toString).value.report.urls.members,
      link.StandsForItself := by
    have hhosts : ∀ link ∈ (pageIn Window.clock {} lackingSource loopbackPage.toString).value.report.urls.members,
        link.url.authority = loopbackPage.authority := by
      rw [report_pageIn_of_delivers _ _ _ htarget hbody]
      decide +kernel
    intro link hlink a ha
    rw [hhosts link hlink] at ha
    cases ha
    trivial
  obtain ⟨⟨asked, -, hreports⟩, hanswered⟩ := reportsAsked_pageIn Window.clock {} lackingSource loopbackPage.toString
  exact ⟨htarget, hrecord, hreports.contains_iff.2 (fun _ _ link hlink _ => hself link hlink) _ hrecord _ rfl,
    (hanswered loopbackPage htarget 2 loopbackMarkup).mem_asked _ hcall⟩

/-- A page with a script from a host whose digits are too many to be read. -/
def distantMarkup : List Char :=
  Markup.page [.reference .script (distantCandidate [])]

/-- Nothing but this page is to be had. -/
def distantSource : Fetch.Source := fun url =>
  if url = "http://[::1]/a/b" then ⟨2, { body := .ok distantMarkup }⟩
  else ⟨1, { body := .error (.status 404 url) }⟩

theorem mem_scripts_distantMarkup :
    Markup.Script.external (distantCandidate []) ∈ Markup.scripts (Markup.scan distantMarkup).tree := by
  have hvalue : Html.IsValue (distantCandidate []) := by
    intro c hc
    rw [distantCandidate, List.mem_append, List.mem_cons, List.mem_cons, List.mem_cons, List.mem_append,
      List.mem_singleton] at hc
    rcases hc with hc | rfl | rfl | rfl | hc | rfl
    · have hall : Url.http.all (fun d => d != '\r' && d != '\x00') = true := by decide
      have hother := List.all_eq_true.1 hall c hc
      rwa [Bool.and_eq_true, bne_iff_ne, bne_iff_ne] at hother
    · decide
    · decide
    · decide
    · have hother : c ∉ ['\r', '\x00'] := (isIdeograph_of_mem_distantLabel hc).not_mem_of_ascii (by decide)
      rwa [List.mem_cons, List.mem_singleton, not_or] at hother
    · decide
  have hplain : ∀ item ∈ [Markup.Item.reference .script (distantCandidate [])], item.IsPlain :=
    List.forall_mem_singleton.2 hvalue
  rw [distantMarkup, Markup.scan, Markup.scripts_eq (Markup.bears_parse hplain)]
  exact List.mem_filterMap.2 ⟨_, List.mem_singleton_self _, rfl⟩

/-- The script is on record, but the links do not find its URL. -/
theorem reportsAsked_pageIn_distant :
    Url.parse loopbackPage.toString = .ok loopbackPage
      ∧ ∃ record ∈ (pageIn Window.clock {} distantSource loopbackPage.toString).value.report.scripts,
        ∃ url, record.origin = .external url
          ∧ (pageIn Window.clock {} distantSource loopbackPage.toString).value.report.urls.contains url.toList
            = false := by
  have htarget : Url.parse loopbackPage.toString = .ok loopbackPage := by
    rw [Url.parse, Url.toString, String.toList_ofList]
    rfl
  have hurl : loopbackPage.toString = "http://[::1]/a/b" := by decide +kernel
  have hbody : distantSource.Delivers ({} : Options).fetchTimeout loopbackPage.toString distantMarkup := by
    rw [Fetch.Source.Delivers, distantSource, if_pos hurl]
    exact ⟨by decide, rfl⟩
  obtain ⟨u, hu, hdistant⟩ := exists_normalize_distantCandidate loopbackPage []
  have hjob : Job.external u ∈ plan loopbackPage (Markup.scripts (Markup.scan distantMarkup).tree) :=
    (external_mem_plan read_loopbackPage).2 ⟨_, mem_scripts_distantMarkup, hu⟩
  have hreport := report_pageIn_of_delivers {} distantSource Window.clock htarget hbody
  have hreported : Reported {} loopbackPage.toString
      (reportOf {} distantSource loopbackPage.toString loopbackPage distantMarkup) :=
    .loaded htarget distantSource distantMarkup
  have hmem := mem_members_of_planned {} distantSource htarget _ hjob
  refine ⟨htarget, Job.record {} distantSource (.external u), ?_, u.toString, origin_record _ _ _, ?_⟩
  · rw [hreport, scripts_reportOf]
    exact List.mem_map_of_mem hjob
  · rw [hreport, WebUrl.toString, String.toList_ofList, Bool.eq_false_iff]
    exact fun hfound => hdistant ((hreported.gated.isNormal.contains_text_iff hmem).1 hfound)

end Survey

end LinkSurvey
