import LinkSurvey.Proofs.Survey

/-!
What a report may say. A report of a page that could not be loaded says why and nothing else. In the report of
any other page every record is that of a planned script, in the order of the plan; so its origins are told
apart, and what is said of failures in the records is what is said in the errors.
-/

namespace LinkSurvey

/-- A script that cannot be parsed gives nothing. -/
theorem Script.candidates_of_failed {code : List Char} (h : (scan code).status = .failed) :
    (scan code).candidates = [] := by
  revert h
  rw [scan]
  split
  · intro h
    exact absurd h (ParseStatus.ofErrorCount_ne_failed _)
  · split
    · intro h
      exact absurd h (ParseStatus.ofErrorCount_ne_failed _)
    · intro _
      rfl

def Origin.url? : Origin → Option String
  | .external url => some url
  | .inline _ => none

def Origin.index? : Origin → Option Nat
  | .external _ => none
  | .inline index => some index

/-- What the errors of a report say of a script. -/
def ScriptRecord.loadError? (r : ScriptRecord) : Option String :=
  match r.fate with
  | .fetchFailed error => some ("Failed to load script: " ++ error)
  | _ => none

namespace Survey

/-! ### The parts of a report -/

section Outcomes

variable (base : Url) (report : PageReport) (os : List Outcome)

theorem markup_addOutcomes : (os.foldl (addOutcome base) report).markup = report.markup := by
  induction os generalizing report with
  | nil => rfl
  | cons o os ih => exact ih _

theorem scripts_addOutcomes :
    (os.foldl (addOutcome base) report).scripts = report.scripts ++ os.map Outcome.record := by
  induction os generalizing report with
  | nil => simp
  | cons o os ih =>
      rw [List.foldl_cons, ih, List.map_cons, List.append_cons]
      rfl

theorem errors_addOutcome (o : Outcome) :
    (addOutcome base report o).errors = report.errors ++ o.record.loadError?.toList := by
  rw [addOutcome, ScriptRecord.loadError?]
  cases o.record.fate <;> simp

theorem errors_addOutcomes :
    (os.foldl (addOutcome base) report).errors
      = report.errors ++ (os.map Outcome.record).filterMap ScriptRecord.loadError? := by
  induction os generalizing report with
  | nil => simp
  | cons o os ih =>
      rw [List.foldl_cons, ih, errors_addOutcome, List.map_cons, List.append_assoc, List.filterMap_cons]
      cases o.record.loadError? <;> rfl

end Outcomes

variable (options : Options) (source : Fetch.Source)

theorem report_pageIn (order : Window.Order Job Outcome) (target : String) :
    (pageIn order options source target).value.report = (findings options source target).1 := by
  rw [← pageIn_findings order options source target]

/-- The report of a page that arrives in time. -/
theorem report_pageIn_of_delivers (order : Window.Order Job Outcome) {target : String} {base : Url}
    (htarget : Url.parse target = .ok base) {body : List Char}
    (hbody : source.Delivers options.fetchTimeout base.toString body) :
    (pageIn order options source target).value.report = reportOf options source target base body := by
  have hanswer : (source.within options.fetchTimeout (String.ofList base.text)).value.body = .ok body :=
    (source.body_within _ _ body).2 hbody
  rw [report_pageIn, findings, htarget]
  simp only [hanswer]

theorem markup_reportOf (target : String) (base : Url) (body : List Char) :
    (reportOf options source target base body).markup = some (Markup.scan body).status :=
  markup_addOutcomes base _ _

/-- The record of a job. -/
def Job.record (job : Job) : ScriptRecord :=
  (job.outcome options source).value.record

theorem scripts_reportOf (target : String) (base : Url) (body : List Char) :
    (reportOf options source target base body).scripts
      = (plan base (Markup.scripts (Markup.scan body).tree)).map (Job.record options source) := by
  -- Comparing the lists as they are would have the page parsed, so they are compared job by job.
  simp only [reportOf, scripts_addOutcomes, outcomes, List.nil_append, List.map_map]
  exact List.map_congr_left fun _ _ => rfl

theorem errors_reportOf (target : String) (base : Url) (body : List Char) :
    (reportOf options source target base body).errors
      = (reportOf options source target base body).scripts.filterMap ScriptRecord.loadError? := by
  simp only [reportOf, errors_addOutcomes, scripts_addOutcomes, List.nil_append]

/-! ### Records -/

def Job.origin : Job → Origin
  | .external url => .external url.toString
  | .inline index _ => .inline index

theorem origin_ofCode (origin : Origin) (code : List Char) :
    (Outcome.ofCode options origin code).record.origin = origin := by
  rw [Outcome.ofCode]
  dsimp only
  split <;> rfl

theorem origin_record (job : Job) : (job.record options source).origin = job.origin := by
  cases job with
  | inline index text => exact origin_ofCode options _ text
  | external url =>
      rw [Job.record, Job.outcome, Job.origin]
      dsimp only
      split
      · exact origin_ofCode options _ _
      · rfl

/-- The code that stands at an origin: the inline script of that index, or the body that arrives in time. -/
inductive CodeAt (scripts : List Markup.Script) : Origin → List Char → Prop where
  | inline {index : Nat} {text : List Char}
      (h : (scripts.filterMap Markup.Script.text?)[index]? = some text) : CodeAt scripts (.inline index) text
  | external {url : String} {code : List Char} (h : source.Delivers options.fetchTimeout url code) :
      CodeAt scripts (.external url) code

/-- What a record may say: that code was parsed, and then what there is to it; that it was too large for that;
or that there is none, and then nothing arrived in time. -/
inductive Recorded (scripts : List Markup.Script) : ScriptRecord → Prop where
  | parsed {origin : Origin} {code : List Char} {status : ParseStatus} {candidates : Nat}
      (hcode : CodeAt options source scripts origin code)
      (hsize : (Text.Utf8.encode code).length ≤ options.maxScriptBytes)
      (hfailed : status = .failed → candidates = 0) :
      Recorded scripts ⟨origin, (Text.Utf8.encode code).length, some (Digest.ofText code), .parsed status,
        candidates⟩
  | tooLarge {origin : Origin} {code : List Char} (hcode : CodeAt options source scripts origin code)
      (hsize : options.maxScriptBytes < (Text.Utf8.encode code).length) :
      Recorded scripts ⟨origin, (Text.Utf8.encode code).length, some (Digest.ofText code), .tooLarge, 0⟩
  | fetchFailed {url error : String} (hsilent : ∀ code, ¬source.Delivers options.fetchTimeout url code) :
      Recorded scripts ⟨.external url, 0, none, .fetchFailed error, 0⟩

variable {options source} {scripts : List Markup.Script}

theorem recorded_ofCode {origin : Origin} {code : List Char} (hcode : CodeAt options source scripts origin code) :
    Recorded options source scripts (Outcome.ofCode options origin code).record := by
  rw [Outcome.ofCode]
  dsimp only
  split
  · rename_i hsize
    exact .tooLarge hcode hsize
  · rename_i hsize
    refine .parsed hcode (Nat.not_lt.1 hsize) fun hfailed => ?_
    rw [Script.candidates_of_failed hfailed, List.length_nil]

theorem text_of_mem_plan {base : Url} {index : Nat} {text : List Char}
    (h : Job.inline index text ∈ plan base scripts) :
    (scripts.filterMap Markup.Script.text?)[index]? = some text := by
  have hmem : (text, index) ∈ (plan base scripts).filterMap Job.inline? := List.mem_filterMap.2 ⟨_, h, rfl⟩
  rw [plan, inline_planFrom] at hmem
  exact List.mem_zipIdx_iff_getElem?.1 hmem

theorem recorded_record {base : Url} {job : Job} (h : job ∈ plan base scripts) :
    Recorded options source scripts (job.record options source) := by
  cases job with
  | inline index text => exact recorded_ofCode (.inline (text_of_mem_plan h))
  | external url =>
      rw [Job.record, Job.outcome]
      cases hbody : (source.within options.fetchTimeout url.toString).value.body with
      | ok code => exact recorded_ofCode (.external ((source.body_within _ _ code).1 hbody))
      | error failure =>
          refine .fetchFailed fun code hcode => ?_
          rw [(source.body_within _ _ code).2 hcode] at hbody
          cases hbody

/-! ### Whole reports -/

variable (options source scripts)

/-- What holds of the report of a page with the given scripts. -/
structure LoadedReport (r : PageReport) : Prop where
  parsed : ∃ status, r.markup = some status ∧ status ≠ .failed
  errors_eq : r.errors = r.scripts.filterMap ScriptRecord.loadError?
  inline_indices : r.scripts.filterMap (·.origin.index?)
    = List.range (scripts.filterMap Markup.Script.text?).length
  external_nodup : (r.scripts.filterMap (·.origin.url?)).Nodup
  recorded : ∀ record ∈ r.scripts, Recorded options source scripts record

theorem url?_origin (job : Job) : job.origin.url? = job.url? := by
  cases job <;> rfl

theorem index?_origin (job : Job) : job.origin.index? = job.inline?.map Prod.snd := by
  cases job <;> rfl

theorem loadedReport_reportOf (target : String) (base : Url) (body : List Char) :
    LoadedReport options source (Markup.scripts (Markup.scan body).tree)
      (reportOf options source target base body) where
  parsed := ⟨_, markup_reportOf options source target base body, ParseStatus.ofErrorCount_ne_failed _⟩
  errors_eq := errors_reportOf options source target base body
  inline_indices := by
    rw [scripts_reportOf, List.filterMap_map]
    simp only [Function.comp_def, origin_record, index?_origin]
    rw [← List.map_filterMap, plan, inline_planFrom, List.zipIdx_map_snd, List.range_eq_range']
  external_nodup := by
    rw [scripts_reportOf, List.filterMap_map]
    simp only [Function.comp_def, origin_record, url?_origin]
    exact (nodup_planFrom base [] 0 _).1
  recorded := by
    rw [scripts_reportOf]
    exact List.forall_mem_map.2 fun job hjob => recorded_record hjob

/-- What holds of the report of a target, loaded or not. -/
structure WellFormed (target : String) (r : PageReport) : Prop where
  not_loaded : r.pageLoaded = false → r.urls.members = [] ∧ r.scripts = [] ∧ ∃ error, r.errors = [error]
  loaded : r.pageLoaded = true → ∃ base body, Url.parse target = .ok base
    ∧ source.Delivers options.fetchTimeout base.toString body
    ∧ LoadedReport options source (Markup.scripts (Markup.scan body).tree) r

theorem wellFormed_failure (target error : String) :
    WellFormed options source target { target, errors := [error] } where
  not_loaded := fun _ => ⟨rfl, rfl, error, rfl⟩
  loaded := fun h => absurd h Bool.false_ne_true

theorem wellFormed_findings (target : String) :
    WellFormed options source target (findings options source target).1 := by
  rw [findings]
  cases htarget : Url.parse target with
  | error e => exact wellFormed_failure options source target _
  | ok base =>
      dsimp only
      cases hbody : (source.within options.fetchTimeout (String.ofList base.text)).value.body with
      | error failure => exact wellFormed_failure options source target _
      | ok body =>
          have hreport := loadedReport_reportOf options source target base body
          have hdelivers := (source.body_within _ _ body).1 hbody
          dsimp only
          refine ⟨fun h => ?_, fun _ => ⟨base, body, htarget, hdelivers, hreport⟩⟩
          rw [PageReport.pageLoaded, markup_reportOf] at h
          exact absurd h (by simp)

/-- Every report is well formed, in whatever order the scripts of the page finish. That of a loaded page is so
whatever the page was answered with, even if a script refers to the page and the answer is another one then. -/
theorem wellFormed_pageIn (order : Window.Order Job Outcome) (target : String) :
    WellFormed options source target (pageIn order options source target).value.report
      ∧ ∀ base now body, LoadedReport options source (Markup.scripts (Markup.scan body).tree)
          (ofBody order options source target base now body).value.report := by
  constructor
  · rw [report_pageIn]
    exact wellFormed_findings options source target
  · intro base now body
    rw [ofBody_report]
    exact loadedReport_reportOf options source target base body

end Survey

end LinkSurvey
