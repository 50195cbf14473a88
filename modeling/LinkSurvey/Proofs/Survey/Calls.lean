import LinkSurvey.Proofs.Survey.Interleaving

/-!
What a survey of a page asks for. What is to be done for a script depends on the script and on those before it, so
the plan can be written down script by script; and the URLs of the plan are all that the scripts lead to, each of them
where it comes first. Whatever order the scripts finish in, they are asked for in that order, and every job of the plan
has its record.
-/

namespace LinkSurvey.Survey

open Gate

/-- The URL that a script is fetched from, if the gate accepts its source. -/
def link? (base : Url) : Markup.Script → Option String
  | .inline _ => none
  | .external source =>
    match normalize base source with
    | .ok url => some url.toString
    | .error _ => none

/-- The URLs that the scripts of a page lead to, however often. -/
def links (base : Url) (scripts : List Markup.Script) : List String :=
  scripts.filterMap (link? base)

/-- What is to be done for a script that comes after others: it is read as the next inline script, or fetched if its
source is accepted and none of the others led to the same URL. -/
def job? (base : Url) (earlier : List Markup.Script) : Markup.Script → Option Job
  | .inline text => some (.inline (earlier.filterMap Markup.Script.text?).length text)
  | .external source =>
    match normalize base source with
    | .ok url => if url.toString ∈ links base earlier then none else some (.external url)
    | .error _ => none

/-! ### The plan, script by script -/

theorem any_text_iff {queued : List WebUrl} {url : WebUrl} :
    queued.any (·.text == url.text) = true ↔ url.toString ∈ queued.map WebUrl.toString := by
  simp only [List.any_eq_true, beq_iff_eq, List.mem_map]
  apply exists_congr
  intro v
  apply and_congr_right
  intro _
  exact ⟨congrArg String.ofList, fun h => String.ofList_injective h⟩

/-- What a planner knows when some scripts are planned: the URLs that they lead to, and how many of them are inline. -/
structure Planned (base : Url) (earlier : List Markup.Script) (queued : List WebUrl) (index : Nat) : Prop where
  queued_iff : ∀ url, url ∈ queued.map WebUrl.toString ↔ url ∈ links base earlier
  index_eq : index = (earlier.filterMap Markup.Script.text?).length

variable {base : Url} {earlier : List Markup.Script} {queued : List WebUrl} {index : Nat}

theorem links_append (base : Url) (earlier : List Markup.Script) (script : Markup.Script) :
    links base (earlier ++ [script]) = links base earlier ++ (link? base script).toList := by
  rw [links, List.filterMap_append, List.filterMap_cons]
  cases link? base script <;> rfl

theorem link?_external {source : List Char} {url : WebUrl} (h : normalize base source = .ok url) :
    link? base (.external source) = some url.toString := by
  rw [link?, h]

/-- The next script adds its own job to the plan, if it has one. -/
theorem Planned.step (h : Planned base earlier queued index) (script : Markup.Script) :
    ∃ queued' index', Planned base (earlier ++ [script]) queued' index'
      ∧ ∀ rest, planFrom base queued index (script :: rest)
        = (job? base earlier script).toList ++ planFrom base queued' index' rest := by
  cases script with
  | inline text =>
      refine ⟨queued, index + 1, ⟨fun url => ?_, ?_⟩, fun rest => ?_⟩
      · rw [h.queued_iff, links_append]
        simp [link?]
      · rw [h.index_eq, List.filterMap_append, List.length_append]
        rfl
      · rw [planFrom, job?, ← h.index_eq]
        rfl
  | external source =>
      have hindex : index = ((earlier ++ [Markup.Script.external source]).filterMap Markup.Script.text?).length := by
        rw [h.index_eq, List.filterMap_append]
        simp [Markup.Script.text?]
      cases hsource : normalize base source with
      | error e =>
          refine ⟨queued, index, ⟨fun url => ?_, hindex⟩, fun rest => ?_⟩
          · rw [h.queued_iff, links_append]
            simp [link?, hsource]
          · simp only [planFrom, job?, hsource]
            rfl
      | ok url =>
          by_cases hmem : url.toString ∈ links base earlier
          · refine ⟨queued, index, ⟨fun other => ?_, hindex⟩, fun rest => ?_⟩
            · rw [h.queued_iff, links_append, link?_external hsource, Option.toList_some, List.mem_append,
                List.mem_singleton]
              refine ⟨Or.inl, ?_⟩
              rintro (hother | rfl)
              · exact hother
              · exact hmem
            · have hany := any_text_iff.2 ((h.queued_iff _).2 hmem)
              simp only [planFrom, job?, hsource, hany, hmem, if_true]
              rfl
          · refine ⟨url :: queued, index, ⟨fun other => ?_, hindex⟩, fun rest => ?_⟩
            · rw [List.map_cons, List.mem_cons, h.queued_iff, links_append, link?_external hsource,
                Option.toList_some, List.mem_append, List.mem_singleton, or_comm]
            · have hany : ¬queued.any (·.text == url.text) = true := fun hany =>
                hmem ((h.queued_iff _).1 (any_text_iff.1 hany))
              simp only [planFrom, job?, hsource, hany, hmem]
              rfl

theorem Planned.planFrom_eq (h : Planned base earlier queued index) (rest : List Markup.Script) :
    planFrom base queued index rest
      = (rest.zipIdx earlier.length).filterMap fun s => job? base ((earlier ++ rest).take s.2) s.1 := by
  induction rest generalizing earlier queued index with
  | nil => rfl
  | cons script rest ih =>
      obtain ⟨queued', index', hnext, hplan⟩ := h.step script
      have hsplit : earlier ++ script :: rest = earlier ++ [script] ++ rest := List.append_cons ..
      have hplace : earlier.length + 1 = (earlier ++ [script]).length := by simp
      rw [hplan, ih hnext, List.zipIdx_cons, List.filterMap_cons, List.take_left, hplace, ← hsplit]
      cases job? base earlier script <;> rfl

theorem planned_nil (base : Url) : Planned base [] [] 0 where
  queued_iff := by simp [links]
  index_eq := rfl

/-- Script by script, the plan holds what is to be done for it. -/
theorem plan_eq (base : Url) (scripts : List Markup.Script) :
    plan base scripts = scripts.zipIdx.filterMap fun s => job? base (scripts.take s.2) s.1 :=
  (planned_nil base).planFrom_eq scripts

/-! ### The URLs of the plan -/

theorem filter_notMem_cons (urls : List String) (url : String) (queued : List String) :
    urls.filter (· ∉ url :: queued) = (urls.filter (· ∉ queued)).filter (fun other => !other == url) := by
  rw [List.filter_filter]
  apply List.filter_congr
  intro other _
  by_cases hsame : other = url <;> simp [hsame]

theorem links_cons (base : Url) (script : Markup.Script) (rest : List Markup.Script) :
    links base (script :: rest) = (link? base script).toList ++ links base rest := by
  rw [links, List.filterMap_cons]
  cases link? base script <;> rfl

theorem filterMap_url?_planFrom (base : Url) (queued : List WebUrl) (index : Nat) (scripts : List Markup.Script) :
    (planFrom base queued index scripts).filterMap Job.url?
      = ((links base scripts).filter (· ∉ queued.map WebUrl.toString)).eraseDups := by
  induction scripts generalizing queued index with
  | nil => rfl
  | cons script rest ih =>
      rw [links_cons]
      cases script with
      | inline text => exact ih queued (index + 1)
      | external source =>
          rw [planFrom]
          cases hsource : normalize base source with
          | error e =>
              rw [link?, hsource]
              exact ih queued index
          | ok url =>
              rw [link?_external hsource]
              dsimp only [Option.toList_some, List.singleton_append]
              split
              · rename_i hany
                have hmem := any_text_iff.1 hany
                rw [ih, List.filter_cons_of_neg (by simpa using hmem)]
              · rename_i hany
                have hmem : url.toString ∉ queued.map WebUrl.toString := fun hmem => hany (any_text_iff.2 hmem)
                have hurl : (Job.external url).url? = some url.toString := rfl
                rw [List.filterMap_cons_some hurl, ih, List.filter_cons_of_pos (by simpa using hmem),
                  List.eraseDups_cons, List.map_cons, filter_notMem_cons]

/-- Every URL that the scripts lead to is planned once, where it comes first. -/
theorem filterMap_url?_plan (base : Url) (scripts : List Markup.Script) :
    (plan base scripts).filterMap Job.url? = (links base scripts).eraseDups := by
  rw [plan, filterMap_url?_planFrom]
  simp

/-! ### A survey at work -/

variable (options : Options) (source : Fetch.Source)

/-- What a survey that has asked for some URLs does for the scripts of a page: it asks for the URLs that they lead to,
each of them where it comes first; it does what is to be done script by script, with every inline script under its
number; and it records job by job. -/
structure WorksThrough (base : Url) (scripts : List Markup.Script) (asked : List String) (run : Run) : Prop where
  calls_eq : run.calls = asked ++ (links base scripts).eraseDups
  jobs_eq : plan base scripts = scripts.zipIdx.filterMap fun s => job? base (scripts.take s.2) s.1
  texts_eq : (plan base scripts).filterMap Job.inline? = (scripts.filterMap Markup.Script.text?).zipIdx
  records_eq : run.report.scripts = (plan base scripts).map (Job.record options source)
  origins_eq : run.report.scripts.map ScriptRecord.origin = (plan base scripts).map Job.origin

variable {options source} {base : Url} {body : List Char}

theorem worksThrough_of {run : Run} {target : String} {asked : List String}
    (hcalls : run.calls = asked ++ scriptCalls base body)
    (hreport : run.report = reportOf options source target base body) :
    WorksThrough options source base (Markup.scripts (Markup.scan body).tree) asked run where
  calls_eq := by rw [hcalls, scriptCalls, filterMap_url?_plan]
  jobs_eq := plan_eq base _
  texts_eq := inline_planFrom base [] 0 _
  records_eq := by rw [hreport, scripts_reportOf]
  origins_eq := by
    rw [hreport, scripts_reportOf, List.map_map]
    exact List.map_congr_left fun job _ => origin_record options source job

/-- A survey of a page that arrives in time asks for the page and then for its scripts, each of them once, however many
are under way and in whatever order they finish. Of the scripts it does so whatever the page was answered with, even
if one of them refers to the page and the answer is another one then. -/
theorem worksThrough_pageIn (order : Window.Order Job Outcome) {target : String} (htarget : Url.parse target = .ok base)
    (hbody : source.Delivers options.fetchTimeout base.toString body) :
    WorksThrough options source base (Markup.scripts (Markup.scan body).tree) [base.toString]
        (pageIn order options source target).value
      ∧ ∀ now other, WorksThrough options source base (Markup.scripts (Markup.scan other).tree) []
          (ofBody order options source target base now other).value := by
  have hanswer := (source.body_within _ _ body).2 hbody
  constructor
  · have hfindings := pageIn_findings order options source target
    rw [findings_of_body htarget hanswer] at hfindings
    obtain ⟨hreport, hcalls⟩ := Prod.mk.inj hfindings
    rw [← List.singleton_append] at hcalls
    exact worksThrough_of hcalls hreport
  · intro now other
    have hcalls := ofBody_calls order options source target base now other
    rw [← List.nil_append (scriptCalls base other)] at hcalls
    exact worksThrough_of hcalls (ofBody_report order options source target base now other)

/-- The markup
`<script src=s></script><script src=./s></script><script>1</script><script src=mailto:x></script><script>2</script>`. -/
def repeatingMarkup : List Char :=
  ['<', 's', 'c', 'r', 'i', 'p', 't', ' ', 's', 'r', 'c', '=', 's', '>', '<', '/', 's', 'c', 'r', 'i', 'p', 't', '>',
    '<', 's', 'c', 'r', 'i', 'p', 't', ' ', 's', 'r', 'c', '=', '.', '/', 's', '>', '<', '/', 's', 'c', 'r', 'i', 'p',
    't', '>', '<', 's', 'c', 'r', 'i', 'p', 't', '>', '1', '<', '/', 's', 'c', 'r', 'i', 'p', 't', '>', '<', 's', 'c',
    'r', 'i', 'p', 't', ' ', 's', 'r', 'c', '=', 'm', 'a', 'i', 'l', 't', 'o', ':', 'x', '>', '<', '/', 's', 'c', 'r',
    'i', 'p', 't', '>', '<', 's', 'c', 'r', 'i', 'p', 't', '>', '2', '<', '/', 's', 'c', 'r', 'i', 'p', 't', '>']

def repeatingSource : Fetch.Source := fun url =>
  if url = "http://[::1]/a/s" then ⟨1, { body := .ok loopbackScript }⟩ else ⟨2, { body := .ok repeatingMarkup }⟩

/-- Two of the sources are the same URL, and one is no URL to fetch. -/
theorem worksThrough_pageIn_repeating :
    Url.parse loopbackPage.toString = .ok loopbackPage
      ∧ repeatingSource.Delivers ({} : Options).fetchTimeout loopbackPage.toString repeatingMarkup
      ∧ (pageIn Window.clock {} repeatingSource loopbackPage.toString).value.calls
        = ["http://[::1]/a/b", "http://[::1]/a/s"]
      ∧ (pageIn Window.clock {} repeatingSource loopbackPage.toString).value.report.scripts.map ScriptRecord.origin
        = [.external "http://[::1]/a/s", .inline 0, .inline 1] := by
  have htarget : Url.parse loopbackPage.toString = .ok loopbackPage := by
    rw [Url.parse, Url.toString, String.toList_ofList]
    rfl
  have hbody : repeatingSource.Delivers ({} : Options).fetchTimeout loopbackPage.toString repeatingMarkup :=
    ⟨by decide +kernel, by decide +kernel⟩
  obtain ⟨hwork, -⟩ := worksThrough_pageIn Window.clock htarget hbody
  refine ⟨htarget, hbody, ?_, ?_⟩
  · rw [hwork.calls_eq]
    decide +kernel
  · rw [hwork.origins_eq]
    decide +kernel

end LinkSurvey.Survey
