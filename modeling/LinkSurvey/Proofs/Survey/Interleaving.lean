import LinkSurvey.Proofs.Survey.Report
import Mathlib.Algebra.GroupWithZero.Nat
import Mathlib.Logic.Relation

/-!
Surveys of several targets, step by step. Every step lets the next survey begin, or takes one of those under way
a bit further, or delivers the one in front; the steps of different surveys come in any order, and so do the
scripts that finish within one of them. What one step preserves is that each survey has found and asked for what
it would have by then if it were alone. Every step uses up some of the work, and as long as something is left to do
there is a step; so the surveys end, and then all reports are those of the targets one by one.
-/

namespace LinkSurvey.Survey

/-! ### One survey -/

/-- How far a survey is. -/
inductive Stage where
  | begun
  /-- The page was asked for. -/
  | asking (base : Url)
  /-- The page has arrived, and its scripts are worked through. -/
  | reading (base : Url) (body : List Char) (scripts : Window.State Job Outcome)
  | ended (report : PageReport)

/-- How many scripts of a page may be under way. -/
def Options.width (options : Options) : Nat :=
  max options.concurrency 1

variable (options : Options) (source : Fetch.Source)

/-- The scripts of a page before the first of them is started. -/
def jobsAhead (base : Url) (body : List Char) : Window.State Job Outcome :=
  ⟨0, plan base (Markup.scripts (Markup.scan body).tree), [], [], []⟩

/-- The report of a page when its scripts have given their outcomes. -/
def reportWith (target : String) (base : Url) (body : List Char) (os : List Outcome) : PageReport :=
  os.foldl (addOutcome base)
    { target, urls := markupLinks base (Markup.scan body), markup := some (Markup.scan body).status }

/-- One step in the survey of a target, and the URLs that are asked for in it. -/
inductive Stage.Step (target : String) : Stage → Stage → List String → Prop where
  | refuse {e : UrlError} (htarget : Url.parse target = .error e) :
      Step target .begun (.ended (invalidTarget target e).report) []
  | ask {base : Url} (htarget : Url.parse target = .ok base) :
      Step target .begun (.asking base) [base.toString]
  | fail {base : Url} {failure : Fetch.Failure}
      (hanswer : (source.within options.fetchTimeout base.toString).value.body = .error failure) :
      Step target (.asking base) (.ended (loadFailure target base.toString 0 failure).report) []
  | arrive {base : Url} {body : List Char}
      (hanswer : (source.within options.fetchTimeout base.toString).value.body = .ok body) :
      Step target (.asking base) (.reading base body (jobsAhead base body)) []
  | launch {base : Url} {body : List Char} {s : Window.State Job Outcome}
      (hroom : s.flights.length < options.width) (hwaiting : s.waiting ≠ []) :
      Step target (.reading base body s) (.reading base body (s.fill options.width (Job.outcome options source)))
        ((s.waiting.take (options.width - s.flights.length)).filterMap Job.url?)
  | land {base : Url} {body : List Char} {s : Window.State Job Outcome} (order : Window.Order Job Outcome)
      (hunderway : 0 < Window.underway s.flights) :
      Step target (.reading base body s) (.reading base body (s.land order).deliver) []
  | finish {base : Url} {body : List Char} {s : Window.State Job Outcome} (hfinished : s.unfinished = 0) :
      Step target (.reading base body s) (.ended (reportWith target base body s.values)) []

/-- What holds of a survey at a stage. -/
def Stage.Sound (target : String) : Stage → Prop
  | .begun => True
  | .asking base => Url.parse target = .ok base
  | .reading base body s => Url.parse target = .ok base
      ∧ (source.within options.fetchTimeout base.toString).value.body = .ok body
      ∧ s.Sound (Job.outcome options source) (plan base (Markup.scripts (Markup.scan body).tree))
  | .ended report => report = (findings options source target).1

/-- The URLs that a survey has asked for at a stage. -/
def Stage.calls (target : String) : Stage → List String
  | .begun => []
  | .asking base => [base.toString]
  | .reading base _ s => base.toString :: s.launched.filterMap Job.url?
  | .ended _ => (findings options source target).2

variable {options source} {target : String} {base : Url}

theorem findings_of_refused {e : UrlError} (htarget : Url.parse target = .error e) :
    findings options source target = ((invalidTarget target e).report, []) := by
  rw [findings, htarget]

theorem findings_of_failure {failure : Fetch.Failure} (htarget : Url.parse target = .ok base)
    (hanswer : (source.within options.fetchTimeout base.toString).value.body = .error failure) :
    findings options source target = ((loadFailure target base.toString 0 failure).report, [base.toString]) := by
  rw [Url.toString] at hanswer ⊢
  rw [findings, htarget]
  simp only [hanswer]

theorem findings_of_body {body : List Char} (htarget : Url.parse target = .ok base)
    (hanswer : (source.within options.fetchTimeout base.toString).value.body = .ok body) :
    findings options source target
      = (reportOf options source target base body, base.toString :: scriptCalls base body) := by
  rw [Url.toString] at hanswer ⊢
  rw [findings, htarget]
  simp only [hanswer]

/-- A step keeps what holds of its survey, and asks for what the survey has then asked for more than before. -/
theorem Stage.Step.sound {stage next : Stage} {made : List String}
    (h : stage.Step options source target next made) (hstage : stage.Sound options source target) :
    next.Sound options source target
      ∧ next.calls options source target = stage.calls options source target ++ made := by
  cases h with
  | refuse htarget =>
      have hfindings : findings options source target = _ := findings_of_refused htarget
      simp only [Stage.Sound, Stage.calls, hfindings]
      exact ⟨trivial, rfl⟩
  | ask htarget => exact ⟨htarget, rfl⟩
  | fail hanswer =>
      have hfindings := findings_of_failure hstage hanswer
      simp only [Stage.Sound, Stage.calls, hfindings]
      exact ⟨trivial, rfl⟩
  | arrive hanswer => exact ⟨⟨hstage, hanswer, Window.sound_start _ 0 _⟩, rfl⟩
  | launch hroom hwaiting =>
      obtain ⟨htarget, hanswer, hscripts⟩ := hstage
      refine ⟨⟨htarget, hanswer, hscripts.fill _⟩, ?_⟩
      simp only [Stage.calls, Window.State.fill, List.filterMap_append, List.cons_append]
  | land order hunderway =>
      obtain ⟨htarget, hanswer, hscripts⟩ := hstage
      exact ⟨⟨htarget, hanswer, hscripts.landed order⟩, (List.append_nil _).symm⟩
  | @finish base body s hfinished =>
      obtain ⟨htarget, hanswer, hscripts⟩ := hstage
      have hfindings := findings_of_body htarget hanswer
      have hvalues := hscripts.values_eq hfinished
      have hlaunched := (hscripts.delivered_jobs hfinished).2
      simp only [Stage.Sound, Stage.calls, hfindings, reportWith, hvalues, hlaunched, List.append_nil]
      exact ⟨rfl, rfl⟩

/-- A survey that has not ended can go on: if all scripts that were started have finished, it is because they are
done or because more of them can be started. -/
theorem Stage.Sound.exists_step {stage : Stage} (h : stage.Sound options source target) :
    (∃ report, stage = .ended report) ∨ ∃ next made, stage.Step options source target next made := by
  cases stage with
  | begun =>
      cases htarget : Url.parse target with
      | error e => exact Or.inr ⟨_, _, .refuse htarget⟩
      | ok base => exact Or.inr ⟨_, _, .ask htarget⟩
  | asking base =>
      cases hanswer : (source.within options.fetchTimeout base.toString).value.body with
      | error failure => exact Or.inr ⟨_, _, .fail hanswer⟩
      | ok body => exact Or.inr ⟨_, _, .arrive hanswer⟩
  | reading base body s =>
      obtain ⟨-, -, hscripts⟩ := h
      refine Or.inr ?_
      by_cases hfinished : s.unfinished = 0
      · exact ⟨_, _, .finish hfinished⟩
      by_cases hunderway : 0 < Window.underway s.flights
      · exact ⟨_, _, .land (fun _ => 0) hunderway⟩
      have hempty : s.flights = [] := by
        cases hs : s.flights with
        | nil => rfl
        | cons f fs =>
            have hf : f.landed = false := hscripts.front f (by rw [hs]; rfl)
            exact absurd (List.countP_pos_iff.2 ⟨f, by simp [hs], by simp [hf]⟩) hunderway
      have hroom : s.flights.length < options.width := by
        rw [hempty, Options.width, List.length_nil]
        omega
      have hwaiting : s.waiting ≠ [] := by
        intro hnone
        rw [Window.State.unfinished, hnone, List.length_nil] at hfinished
        omega
      exact ⟨_, _, .launch hroom hwaiting⟩
  | ended report => exact Or.inl ⟨report, rfl⟩

variable (options source) in
/-- The steps that a survey may still take, and one for its delivery. -/
def Stage.work (target : String) : Stage → Nat
  | .begun =>
    match Url.parse target with
    | .ok base => asked base + 1
    | .error _ => 2
  | .asking base => asked base
  | .reading _ _ s => s.unfinished + s.waiting.length + 2
  | .ended _ => 1
where
  /-- Every script of the page is started once and finishes once. -/
  asked (base : Url) : Nat :=
    match (source.within options.fetchTimeout base.toString).value.body with
    | .ok body => 2 * (plan base (Markup.scripts (Markup.scan body).tree)).length + 3
    | .error _ => 2

theorem Stage.Step.work_lt {stage next : Stage} {made : List String}
    (h : stage.Step options source target next made) :
    next.work options source target < stage.work options source target := by
  cases h with
  | refuse htarget =>
      simp only [Stage.work, htarget]
      omega
  | ask htarget =>
      simp only [Stage.work, htarget]
      omega
  | fail hanswer =>
      simp only [Stage.work, Stage.work.asked, hanswer]
      omega
  | arrive hanswer =>
      simp only [Stage.work, Stage.work.asked, hanswer, jobsAhead, Window.State.unfinished, Window.underway,
        List.countP_nil]
      omega
  | @launch base body s hroom hwaiting =>
      have hsome : 0 < s.waiting.length := List.length_pos_iff.2 hwaiting
      have hfewer : (s.fill options.width (Job.outcome options source)).waiting.length < s.waiting.length := by
        simp only [Window.State.fill, List.length_drop]
        omega
      have hsame := Window.unfinished_fill options.width (Job.outcome options source) s
      simp only [Stage.work, hsame]
      omega
  | @land base body s order hunderway =>
      have hless := s.unfinished_landed order hunderway
      simp only [Stage.work, Window.State.deliver, Window.State.land] at hless ⊢
      omega
  | finish hfinished =>
      simp only [Stage.work]
      omega

/-! ### All surveys -/

/-- The surveys of a list of targets. -/
structure Pool where
  /-- The targets whose surveys have not begun. -/
  waiting : List String
  /-- The surveys that are not delivered, the oldest first. -/
  flights : List (String × Stage)
  delivered : List PageReport
  /-- All URLs that were asked for, by whichever survey, in that order. -/
  calls : List String

variable (options source) (parallel : Nat) (targets : List String)

/-- A step of all surveys is one of a single survey, wherever it stands. -/
inductive Pool.Step : Pool → Pool → Prop where
  | begin {target : String} {waiting : List String} {flights : List (String × Stage)}
      {delivered : List PageReport} {calls : List String} (hroom : flights.length < max parallel 1) :
      Step ⟨target :: waiting, flights, delivered, calls⟩
        ⟨waiting, flights ++ [(target, .begun)], delivered, calls⟩
  | advance {waiting : List String} {older newer : List (String × Stage)} {delivered : List PageReport}
      {calls made : List String} {target : String} {stage next : Stage}
      (h : stage.Step options source target next made) :
      Step ⟨waiting, older ++ (target, stage) :: newer, delivered, calls⟩
        ⟨waiting, older ++ (target, next) :: newer, delivered, calls ++ made⟩
  | deliver {target : String} {report : PageReport} {waiting : List String}
      {flights : List (String × Stage)} {delivered : List PageReport} {calls : List String} :
      Step ⟨waiting, (target, .ended report) :: flights, delivered, calls⟩
        ⟨waiting, flights, delivered ++ [report], calls⟩

/-- What the surveys can come to, taking any steps. -/
abbrev Pool.Reaches : Pool → Pool → Prop :=
  Relation.ReflTransGen (Pool.Step options source parallel)

def Pool.start : Pool :=
  ⟨targets, [], [], []⟩

def Pool.Ended (s : Pool) : Prop :=
  s.waiting = [] ∧ s.flights = []

/-- What holds of the surveys when those of `past` are delivered. -/
structure Pool.Sound (past : List String) (s : Pool) : Prop where
  in_order : past ++ (s.flights.map Prod.fst ++ s.waiting) = targets
  reports : s.delivered = past.map fun target => (findings options source target).1
  stages : ∀ f ∈ s.flights, f.2.Sound options source f.1
  /-- What was asked for is what the single surveys have asked for. -/
  calls : s.calls.Perm ((past.flatMap fun target => (findings options source target).2)
    ++ s.flights.flatMap fun f => f.2.calls options source f.1)

variable {options source parallel targets}

theorem Pool.sound_start : (Pool.start targets).Sound options source targets [] where
  in_order := rfl
  reports := rfl
  stages := fun _ hf => absurd hf List.not_mem_nil
  calls := .nil

/-- A step keeps what holds of the surveys; only a delivery adds to those that are delivered. -/
theorem Pool.Sound.step {past : List String} {s t : Pool} (h : s.Sound options source targets past)
    (hstep : s.Step options source parallel t) : ∃ past', t.Sound options source targets past' := by
  obtain ⟨hin_order, hreports, hstages, hcalls⟩ := h
  cases hstep with
  | @begin target waiting flights delivered calls hroom =>
      refine ⟨past, ?_, hreports, ?_, ?_⟩
      · rw [← hin_order]
        simp only [List.map_append, List.map_cons, List.map_nil, List.append_assoc, List.singleton_append]
      · intro f hf
        rcases List.mem_append.1 hf with hf | hf
        · exact hstages f hf
        · rw [List.mem_singleton.1 hf]
          exact trivial
      · simpa only [List.flatMap_append, List.flatMap_singleton, Stage.calls, List.append_nil] using hcalls
  | @advance waiting older newer delivered calls made target stage next hadvance =>
      obtain ⟨hnext, hmade⟩ := hadvance.sound (hstages _ (List.mem_append_right _ List.mem_cons_self))
      refine ⟨past, ?_, hreports, ?_, ?_⟩
      · rw [← hin_order]
        simp only [List.map_append, List.map_cons]
      · intro f hf
        rcases List.mem_append.1 hf with hf | hf
        · exact hstages f (List.mem_append_left _ hf)
        rcases List.mem_cons.1 hf with rfl | hf
        · exact hnext
        · exact hstages f (List.mem_append_right _ (List.mem_cons_of_mem _ hf))
      · -- The new calls come last of all, but survey by survey they stand in the middle.
        rw [List.perm_iff_count] at hcalls ⊢
        intro url
        have hurl := hcalls url
        simp only [List.flatMap_append, List.flatMap_cons, List.count_append, hmade] at hurl ⊢
        omega
  | @deliver target report waiting flights delivered calls =>
      have hreport : report = (findings options source target).1 := hstages _ List.mem_cons_self
      refine ⟨past ++ [target], ?_, ?_, fun f hf => hstages f (List.mem_cons_of_mem _ hf), ?_⟩
      · rw [← hin_order]
        simp only [List.map_cons, List.append_assoc, List.cons_append, List.nil_append]
      · rw [List.map_append, ← hreports, hreport]
        rfl
      · simpa only [List.flatMap_append, List.flatMap_cons, List.flatMap_nil, List.append_nil, List.append_assoc,
          Stage.calls] using hcalls

/-- Whatever steps are taken, in any order, each survey stays as it would be alone. -/
theorem Pool.Reaches.sound {s : Pool} (h : (Pool.start targets).Reaches options source parallel s) :
    ∃ past, s.Sound options source targets past := by
  induction h with
  | refl => exact ⟨[], sound_start⟩
  | tail _ hstep ih =>
      obtain ⟨past, hpast⟩ := ih
      exact hpast.step hstep

/-- As long as a survey is left there is a step: the next one begins if none is under way, and otherwise the one
in front goes on or is delivered. -/
theorem Pool.Sound.exists_step {past : List String} {s : Pool} (h : s.Sound options source targets past) :
    s.Ended ∨ ∃ t, s.Step options source parallel t := by
  obtain ⟨waiting, flights, delivered, calls⟩ := s
  cases flights with
  | nil =>
      cases waiting with
      | nil => exact Or.inl ⟨rfl, rfl⟩
      | cons target waiting => exact Or.inr ⟨_, .begin (by rw [List.length_nil]; omega)⟩
  | cons f flights =>
      obtain ⟨target, stage⟩ := f
      rcases (h.stages _ List.mem_cons_self).exists_step with ⟨report, rfl⟩ | ⟨next, made, hstep⟩
      · exact Or.inr ⟨_, .deliver⟩
      · have hfront : Pool.Step options source parallel ⟨waiting, [] ++ (target, stage) :: flights, delivered, calls⟩
            ⟨waiting, [] ++ (target, next) :: flights, delivered, calls ++ made⟩ := .advance hstep
        exact Or.inr ⟨_, hfront⟩

variable (options source) in
/-- The steps that are left: a survey that is under way has begun already. -/
def Pool.work (s : Pool) : Nat :=
  (s.waiting.map fun target => Stage.begun.work options source target + 1).sum
    + (s.flights.map fun f => f.2.work options source f.1).sum

theorem Pool.Step.work_lt {s t : Pool} (h : s.Step options source parallel t) :
    t.work options source < s.work options source := by
  cases h with
  | begin hroom =>
      simp only [Pool.work, List.map_append, List.map_cons, List.map_nil, List.sum_append, List.sum_cons,
        List.sum_nil]
      omega
  | advance hadvance =>
      have hless := hadvance.work_lt
      simp only [Pool.work, List.map_append, List.map_cons, List.sum_append, List.sum_cons]
      omega
  | deliver =>
      simp only [Pool.work, Stage.work, List.map_cons, List.sum_cons]
      omega

variable (options source parallel) in
/-- The surveys cannot go on for ever. -/
theorem Pool.Step.wellFounded : WellFounded fun t s : Pool => s.Step options source parallel t :=
  Subrelation.wf (fun h => Pool.Step.work_lt h) (measure (Pool.work options source)).wf

/-- Whatever steps were taken, the surveys can be brought to an end. -/
theorem Pool.Reaches.exists_ended {s : Pool} (h : (Pool.start targets).Reaches options source parallel s) :
    ∃ t, s.Reaches options source parallel t ∧ t.Ended := by
  induction s using (Pool.Step.wellFounded options source parallel).induction with
  | _ s ih =>
      obtain ⟨past, hsound⟩ := h.sound
      rcases hsound.exists_step with hended | ⟨t, hstep⟩
      · exact ⟨s, .refl, hended⟩
      · obtain ⟨u, hreaches, hended⟩ := ih t hstep (h.tail hstep)
        exact ⟨u, .head hstep hreaches, hended⟩

theorem Pool.Sound.of_ended {past : List String} {s : Pool} (h : s.Sound options source targets past)
    (hended : s.Ended) :
    s.delivered = (targets.map fun target => (findings options source target).1)
      ∧ s.calls.Perm (targets.flatMap fun target => (findings options source target).2) := by
  obtain ⟨hwaiting, hflights⟩ := hended
  have hpast : past = targets := by
    have hin_order := h.in_order
    rwa [hwaiting, hflights, List.map_nil, List.append_nil, List.append_nil] at hin_order
  have hcalls := h.calls
  rw [hflights, List.flatMap_nil, List.append_nil, hpast] at hcalls
  exact ⟨hpast ▸ h.reports, hcalls⟩

end LinkSurvey.Survey
