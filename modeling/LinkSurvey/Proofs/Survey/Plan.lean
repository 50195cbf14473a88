import LinkSurvey.Proofs.UrlSet
import LinkSurvey.Survey.Outcome

/-!
Which code a survey reads. The plan leaves out a script only if the gate refuses its source or the same
link is already planned, so every accepted source is fetched; and the candidates of a script are those of
its code, whatever else becomes of it.
-/

namespace LinkSurvey

open Gate

/-- A source answers with a body before the limit has passed. -/
def Fetch.Source.Delivers (source : Fetch.Source) (limit : Fetch.Span) (url : String) (body : List Char) :
    Prop :=
  (source url).span ≤ limit.nanos ∧ (source url).value.body = .ok body

theorem Fetch.Source.body_within (source : Fetch.Source) (limit : Fetch.Span) (url : String)
    (body : List Char) :
    (source.within limit url).value.body = .ok body ↔ source.Delivers limit url body := by
  rw [Fetch.Source.within, Fetch.Source.Delivers]
  split
  · rename_i hlate
    simp [Nat.not_le.2 hlate]
  · rename_i hlate
    simp [Nat.not_lt.1 hlate]

/-- The code of a script that is in the page itself. -/
def Markup.Script.text? : Markup.Script → Option (List Char)
  | .inline text => some text
  | .external _ => none

namespace Survey

/-! ### The plan -/

theorem any_text_eq {queued : List WebUrl} (hqueued : ∀ v ∈ queued, v.IsNormal) {url : WebUrl}
    (hurl : url.IsNormal) : queued.any (·.text == url.text) = true ↔ url ∈ queued := by
  rw [List.any_eq_true]
  constructor
  · rintro ⟨v, hv, htext⟩
    rw [← (hqueued v hv).text_injective hurl (beq_iff_eq.1 htext)]
    exact hv
  · intro hmem
    exact ⟨url, hmem, beq_self_eq_true _⟩

theorem exists_external_cons {base : Url} {source : List Char} {v url : WebUrl}
    {rest : List Markup.Script} (hsource : normalize base source = .ok v) :
    (∃ s, Markup.Script.external s ∈ .external source :: rest ∧ normalize base s = .ok url) ↔
      v = url ∨ ∃ s, Markup.Script.external s ∈ rest ∧ normalize base s = .ok url := by
  constructor
  · rintro ⟨s, hs, hok⟩
    rcases List.mem_cons.1 hs with heq | hs
    · rw [Markup.Script.external.inj heq, hsource] at hok
      exact Or.inl (Except.ok.inj hok)
    · exact Or.inr ⟨s, hs, hok⟩
  · rintro (rfl | ⟨s, hs, hok⟩)
    · exact ⟨source, List.mem_cons_self, hsource⟩
    · exact ⟨s, List.mem_cons_of_mem _ hs, hok⟩

/-- Links are planned if a source stands for them and they are not planned already. -/
theorem external_mem_planFrom {base : Url} (hbase : base.Read) {queued : List WebUrl}
    (hqueued : ∀ v ∈ queued, v.IsNormal) {index : Nat} {scripts : List Markup.Script} {url : WebUrl} :
    Job.external url ∈ planFrom base queued index scripts ↔
      url ∉ queued ∧ ∃ source, .external source ∈ scripts ∧ normalize base source = .ok url := by
  induction scripts generalizing queued index with
  | nil => simp [planFrom]
  | cons script rest ih =>
      cases script with
      | inline text => simp [planFrom, ih hqueued]
      | external source =>
          cases hsource : normalize base source with
          | error r => simp [planFrom, hsource, ih hqueued]
          | ok v =>
              have hv : v.IsNormal := isNormal_of_normalize hbase hsource
              rw [planFrom, exists_external_cons hsource]
              simp only [hsource]
              split
              · rename_i hany
                have hplanned : v ∈ queued := (any_text_eq hqueued hv).1 hany
                rw [ih hqueued]
                refine and_congr_right fun hnew => ⟨Or.inr, ?_⟩
                rintro (rfl | hlater)
                · exact absurd hplanned hnew
                · exact hlater
              · rename_i hany
                have hnew : v ∉ queued := fun hmem => hany ((any_text_eq hqueued hv).2 hmem)
                rw [List.mem_cons, ih (List.forall_mem_cons.2 ⟨hv, hqueued⟩), List.mem_cons, not_or]
                constructor
                · rintro (heq | ⟨⟨-, hfresh⟩, hlater⟩)
                  · rw [Job.external.inj heq]
                    exact ⟨hnew, Or.inl rfl⟩
                  · exact ⟨hfresh, Or.inr hlater⟩
                · rintro ⟨hfresh, hlater⟩
                  by_cases hsame : url = v
                  · exact Or.inl (by rw [hsame])
                  · exact Or.inr ⟨⟨hsame, hfresh⟩, hlater.resolve_left (Ne.symm hsame)⟩

theorem external_mem_plan {base : Url} (hbase : base.Read) {scripts : List Markup.Script} {url : WebUrl} :
    Job.external url ∈ plan base scripts ↔
      ∃ source, .external source ∈ scripts ∧ normalize base source = .ok url := by
  rw [plan, external_mem_planFrom hbase (by simp)]
  simp

/-- Every inline script is planned, under some index. -/
theorem inline_mem_planFrom {base : Url} {queued : List WebUrl} {index : Nat} {scripts : List Markup.Script}
    {text : List Char} :
    (∃ i, Job.inline i text ∈ planFrom base queued index scripts) ↔ .inline text ∈ scripts := by
  induction scripts generalizing queued index with
  | nil => simp [planFrom]
  | cons script rest ih =>
      cases script with
      | inline other =>
          rw [planFrom]
          constructor
          · rintro ⟨i, hi⟩
            rcases List.mem_cons.1 hi with heq | hi
            · rw [(Job.inline.inj heq).2]
              exact List.mem_cons_self
            · exact List.mem_cons_of_mem _ (ih.1 ⟨i, hi⟩)
          · intro h
            rcases List.mem_cons.1 h with heq | h
            · rw [Markup.Script.inline.inj heq]
              exact ⟨index, List.mem_cons_self⟩
            · obtain ⟨i, hi⟩ := ih.2 h
              exact ⟨i, List.mem_cons_of_mem _ hi⟩
      | external source =>
          rw [planFrom]
          split
          · simpa using ih
          · split
            · simpa using ih
            · simpa using ih

theorem inline_mem_plan {base : Url} {scripts : List Markup.Script} {text : List Char} :
    (∃ i, Job.inline i text ∈ plan base scripts) ↔ .inline text ∈ scripts :=
  inline_mem_planFrom

/-! ### The order of the plan -/

/-- The inline script that a job is for, with its index. -/
def Job.inline? : Job → Option (List Char × Nat)
  | .inline index text => some (text, index)
  | .external _ => none

/-- Inline scripts are numbered in their order, without a gap. -/
theorem inline_planFrom (base : Url) (queued : List WebUrl) (index : Nat) (scripts : List Markup.Script) :
    (planFrom base queued index scripts).filterMap Job.inline?
      = (scripts.filterMap Markup.Script.text?).zipIdx index := by
  induction scripts generalizing queued index with
  | nil => rfl
  | cons script rest ih =>
      cases script with
      | inline text =>
          simp only [planFrom, List.filterMap_cons, Job.inline?, Markup.Script.text?, List.zipIdx_cons, ih]
      | external source =>
          simp only [planFrom, List.filterMap_cons, Markup.Script.text?]
          split
          · exact ih queued index
          · split
            · exact ih queued index
            · simp only [List.filterMap_cons, Job.inline?, ih]

/-- No URL is planned twice, nor one that is queued already. -/
theorem nodup_planFrom (base : Url) (queued : List WebUrl) (index : Nat) (scripts : List Markup.Script) :
    ((planFrom base queued index scripts).filterMap Job.url?).Nodup
      ∧ ∀ v ∈ queued, v.toString ∉ (planFrom base queued index scripts).filterMap Job.url? := by
  induction scripts generalizing queued index with
  | nil => simp [planFrom]
  | cons script rest ih =>
      cases script with
      | inline text =>
          simp only [planFrom, List.filterMap_cons, Job.url?]
          exact ih queued (index + 1)
      | external source =>
          rw [planFrom]
          split
          · exact ih queued index
          · rename_i url hurl
            split
            · exact ih queued index
            · rename_i hany
              obtain ⟨hnodup, hqueued⟩ := ih (url :: queued) index
              obtain ⟨hfresh, hqueued⟩ := List.forall_mem_cons.1 hqueued
              simp only [List.filterMap_cons, Job.url?]
              refine ⟨List.nodup_cons.2 ⟨hfresh, hnodup⟩, fun v hv hmem => ?_⟩
              rcases List.mem_cons.1 hmem with heq | hlater
              · have htext : v.text = url.text := String.ofList_injective heq
                exact hany (List.any_eq_true.2 ⟨v, hv, beq_iff_eq.2 htext⟩)
              · exact hqueued v hv hlater

/-! ### The code of a script -/

/-- The code that a survey of a page reads, apart from code that is too large: the text of an inline script,
or the body that the link of an external one is answered with in time. -/
inductive Code (options : Options) (source : Fetch.Source) (base : Url) (scripts : List Markup.Script) :
    List Char → Prop where
  | inline {text : List Char} (hscript : .inline text ∈ scripts) : Code options source base scripts text
  | external {reference code : List Char} {url : WebUrl} (hscript : .external reference ∈ scripts)
      (hurl : normalize base reference = .ok url)
      (hcode : source.Delivers options.fetchTimeout url.toString code) :
      Code options source base scripts code

/-- A candidate that code of an allowed size holds. -/
def CodeCandidate (options : Options) (code candidate : List Char) : Prop :=
  (Text.Utf8.encode code).length ≤ options.maxScriptBytes
    ∧ ∃ c ∈ (Script.scan code).candidates, c.toList = candidate

theorem mem_candidates_ofCode (options : Options) (origin : Origin) (code candidate : List Char) :
    candidate ∈ (Outcome.ofCode options origin code).candidates ↔ CodeCandidate options code candidate := by
  rw [Outcome.ofCode, CodeCandidate]
  dsimp only
  split
  · rename_i hlarge
    simp [Nat.not_le.2 hlarge]
  · rename_i hlarge
    simp [Nat.not_lt.1 hlarge]

theorem mem_candidates_outcome (options : Options) (source : Fetch.Source) (url : WebUrl)
    (candidate : List Char) :
    candidate ∈ ((Job.external url).outcome options source).value.candidates ↔
      ∃ code, source.Delivers options.fetchTimeout url.toString code
        ∧ CodeCandidate options code candidate := by
  simp only [← Fetch.Source.body_within]
  rw [Job.outcome]
  cases hbody : (source.within options.fetchTimeout url.toString).value.body with
  | error failure => simp [Outcome.ofFailure]
  | ok code => simp [mem_candidates_ofCode]

/-- The candidates that the scripts of a page give are those of the code that is read. -/
theorem mem_candidates_plan {base : Url} (hbase : base.Read) (options : Options) (source : Fetch.Source)
    (scripts : List Markup.Script) (candidate : List Char) :
    (∃ job ∈ plan base scripts, candidate ∈ (job.outcome options source).value.candidates) ↔
      ∃ code, Code options source base scripts code ∧ CodeCandidate options code candidate := by
  constructor
  · rintro ⟨job, hjob, hcandidate⟩
    cases job with
    | inline index text =>
        have hscript := inline_mem_plan.1 ⟨index, hjob⟩
        exact ⟨text, .inline hscript, (mem_candidates_ofCode options _ text candidate).1 hcandidate⟩
    | external url =>
        obtain ⟨reference, hscript, hurl⟩ := (external_mem_plan hbase).1 hjob
        obtain ⟨code, hcode, hcandidate⟩ := (mem_candidates_outcome options source url candidate).1 hcandidate
        exact ⟨code, .external hscript hurl hcode, hcandidate⟩
  · rintro ⟨code, hcode, hcandidate⟩
    cases hcode with
    | inline hscript =>
        obtain ⟨index, hjob⟩ := inline_mem_plan.2 hscript
        exact ⟨_, hjob, (mem_candidates_ofCode options _ code candidate).2 hcandidate⟩
    | external hscript hurl hbody =>
        exact ⟨_, (external_mem_plan hbase).2 ⟨_, hscript, hurl⟩,
          (mem_candidates_outcome options source _ candidate).2 ⟨code, hbody, hcandidate⟩⟩

end Survey

end LinkSurvey
