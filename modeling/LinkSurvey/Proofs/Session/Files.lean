import LinkSurvey.Proofs.Session

/-!
The files that a run leaves. The reports are written first and the list of links after them, so a run that succeeds
leaves both if the two paths lead to different places. If they lead to the same place the list takes the place of the
reports, although the run succeeds; and the two paths need not look alike, nor need the second one be given. No other
place changes.
-/

namespace LinkSurvey.Session

/-! ### The two documents -/

/-- The document of some reports is not a list of links, in neither format. -/
theorem document_ne_listing {reports : List TimedReport} (hne : reports ≠ []) (format : OutputFormat)
    (links : UrlSet) :
    (TimedReport.document reports).text ≠ listing format links := by
  obtain ⟨report, reports, rfl⟩ := List.exists_cons_of_ne_nil hne
  obtain ⟨rest, hdocument⟩ : ∃ rest, (TimedReport.document (report :: reports)).text
      = '[' :: '\n' :: ' ' :: ' ' :: '\x7b' :: rest :=
    ⟨_, rfl⟩
  rw [hdocument, listing]
  split_ifs
  · rw [UrlSet.toJson]
    cases links.texts with
    | nil =>
        intro h
        cases h
    | cons text texts =>
        obtain ⟨rest, hlist⟩ : ∃ rest, (Json.array ((text :: texts).map .string)).text
            = '[' :: '\n' :: ' ' :: ' ' :: '"' :: rest :=
          ⟨_, rfl⟩
        rw [hlist]
        simp
  · rw [UrlSet.lines]
    cases hmembers : links.members with
    | nil => simp [UrlSet.texts, hmembers]
    | cons u us =>
        have hhead := Gate.head?_text u
        obtain ⟨rest, htext⟩ := List.head?_eq_some_iff.1 hhead
        simp [UrlSet.texts, hmembers, htext]

/-! ### What is left of them -/

variable {settings : Settings} {folder after : Folder} {surveyor : Surveyor settings.surveyOptions}
  {targets : List String} {report list : String}

theorem Completed.files (h : Completed settings folder surveyor targets after) (hreport : settings.report = some report)
    (hlist : settings.outputPath? = some list) :
    ∃ p q, folder.locate report.toList = .ok p ∧ folder.locate list.toList = .ok q
      ∧ after.readText list.toList = .ok (listing settings.output (allUrls (surveyor.reports targets)))
      ∧ after.readText report.toList = .ok (if p = q then listing settings.output (allUrls (surveyor.reports targets))
          else (TimedReport.document (surveyor.reports targets)).text)
      ∧ after.current = folder.current ∧ after.folders = folder.folders
      ∧ ∀ place, place ≠ p → place ≠ q → after.entry? place = folder.entry? place := by
  obtain ⟨between, hfirst, hsecond⟩ := h.written
  rw [hreport] at hfirst
  rw [hlist] at hsecond
  exact Folder.writeText_twice hfirst hsecond

/-- Of a run that succeeds the list of links is left where it should be, and no place changes but those of the two
files. The reports are left if and only if the two paths lead to different places. -/
theorem runWith_files (hreport : settings.report = some report) (hlist : settings.outputPath? = some list)
    (hsuccess : (runWith settings folder surveyor).exitCode = 0) :
    ∃ targets p q, Targets.load folder settings = .ok targets
      ∧ folder.locate report.toList = .ok p ∧ folder.locate list.toList = .ok q
      ∧ (runWith settings folder surveyor).folder.readText list.toList
        = .ok (listing settings.output (allUrls (surveyor.reports targets)))
      ∧ ((runWith settings folder surveyor).folder.readText report.toList
          = .ok (TimedReport.document (surveyor.reports targets)).text ↔ p ≠ q)
      ∧ (runWith settings folder surveyor).folder.current = folder.current
      ∧ (runWith settings folder surveyor).folder.folders = folder.folders
      ∧ ∀ place, place ≠ p → place ≠ q →
        (runWith settings folder surveyor).folder.entry? place = folder.entry? place := by
  obtain ⟨targets, after, h, r, hr, -⟩ := (exitCode_eq_zero_iff settings folder surveyor).1 hsuccess
  obtain ⟨told, hsession⟩ := h.runWith_eq
  obtain ⟨p, q, hp, hq, hlisted, hreported, hcurrent, hfolders, hothers⟩ := h.files hreport hlist
  rw [hsession]
  refine ⟨targets, p, q, h.load, hp, hq, hlisted, ?_, hcurrent, hfolders, hothers⟩
  rw [hreported]
  split_ifs with hsame
  · refine iff_of_false (fun hboth => ?_) (not_not_intro hsame)
    exact document_ne_listing (List.ne_nil_of_mem hr) _ _ (Except.ok.inj hboth).symm
  · exact iff_of_true rfl hsame

/-! ### A network of empty pages -/

/-- Whatever is asked for is an empty page. -/
def emptyPages : Fetch.Network :=
  ⟨fun _ _ => some ⟨0, .response {}⟩⟩

/-- A survey of `http://[::1]/a/b` whose links go to `output.text`. -/
def loopbackSettings (report : String) : Settings :=
  { targets := [Gate.loopbackPage.toString]
    output := .text
    report := some report }

variable (report : String)

theorem load_loopbackSettings :
    Targets.load { current := [] } (loopbackSettings report) = .ok [Gate.loopbackPage.toString] := by
  simp only [Targets.load, loopbackSettings, Url.toString, List.map_cons, List.map_nil, String.toList_ofList]
  rfl

theorem check_loopbackSettings : (loopbackSettings report).client.check = .ok () := by
  have hclient : (loopbackSettings report).client = ({} : Settings).client := rfl
  rw [hclient]
  decide +kernel

theorem delivers_emptyPages :
    ((loopbackSettings report).client.source emptyPages).Delivers
      (loopbackSettings report).surveyOptions.fetchTimeout Gate.loopbackPage.toString [] := by
  have hclient : (loopbackSettings report).client = ({} : Settings).client := rfl
  have hoptions : (loopbackSettings report).surveyOptions = ({} : Settings).surveyOptions := rfl
  rw [hclient, hoptions]
  exact ⟨by decide +kernel, by decide +kernel⟩

/-- Each target that is surveyed has its report among those of the run. -/
theorem exists_report (settings : Settings) (network : Fetch.Network) {target : String} {targets : List String}
    (h : target ∈ targets) :
    ∃ r ∈ (Surveyor.ofNetwork settings network).reports targets, r.toPageReport
      = (Survey.page settings.surveyOptions (settings.client.source network) target).value.report := by
  have hreports : (Surveyor.ofNetwork settings network).reports targets = targets.map fun target =>
      (Survey.page settings.surveyOptions (settings.client.source network) target).value.timedReport
        (Survey.page settings.surveyOptions (settings.client.source network) target).span :=
    Survey.reports_pages _ _ _ targets
  rw [hreports]
  exact ⟨_, List.mem_map_of_mem h, Survey.toPageReport_timedReport _ _⟩

theorem pageLoaded_emptyPages :
    ∃ r ∈ (Surveyor.ofNetwork (loopbackSettings report) emptyPages).reports [Gate.loopbackPage.toString],
      r.pageLoaded = true := by
  have htarget : Url.parse Gate.loopbackPage.toString = .ok Gate.loopbackPage := by
    rw [Url.parse, Url.toString, String.toList_ofList]
    rfl
  obtain ⟨r, hr, hreport⟩ := exists_report (loopbackSettings report) emptyPages (List.mem_singleton_self _)
  refine ⟨r, hr, ?_⟩
  rw [PageReport.pageLoaded, hreport, Survey.page,
    Survey.report_pageIn_of_delivers _ _ _ htarget (delivers_emptyPages report), Survey.markup_reportOf]
  rfl

variable {report}

/-- A name that is free in a folder. -/
structure IsFree (folder : Folder) (path : List Char) (place : Place) : Prop where
  locate : folder.locate path = .ok place
  entry : folder.entry? place = none
  last : path.getLast? ≠ some '/'

theorem isFree_output : IsFree { current := [] } "output.text".toList ["output.text".toList] :=
  ⟨by decide +kernel, rfl, by decide +kernel⟩

/-- The survey of empty pages is completed if its reports go to a free name. -/
theorem exists_completed_emptyPages {place : Place} (h : IsFree { current := [] } report.toList place) :
    ∃ after, Completed (loopbackSettings report) { current := [] } (.ofNetwork (loopbackSettings report) emptyPages)
      [Gate.loopbackPage.toString] after := by
  have hfile : Folder.entry? { current := [] } place ≠ some .folder := by
    rw [h.entry]
    exact nofun
  have hlist : Folder.entry? { current := [] } ["output.text".toList] ≠ some .folder := by
    rw [isFree_output.entry]
    exact nofun
  obtain ⟨between, after, hfirst, hsecond⟩ := Folder.exists_writeText_twice h.locate hfile h.last
    isFree_output.locate hlist isFree_output.last
    (TimedReport.document
      ((Surveyor.ofNetwork (loopbackSettings report) emptyPages).reports [Gate.loopbackPage.toString])).text
    (listing .text (allUrls
      ((Surveyor.ofNetwork (loopbackSettings report) emptyPages).reports [Gate.loopbackPage.toString])))
  exact ⟨after, load_loopbackSettings report, List.cons_ne_nil _ _, check_loopbackSettings report, between, hfirst,
    hsecond⟩

theorem exitCode_emptyPages {place : Place} (h : IsFree { current := [] } report.toList place) :
    (run (loopbackSettings report) { current := [] } emptyPages).exitCode = 0 := by
  obtain ⟨after, hcompleted⟩ := exists_completed_emptyPages h
  rw [run_eq_runWith, exitCode_eq_zero_iff]
  exact ⟨_, after, hcompleted, pageLoaded_emptyPages report⟩

/-- The reports in a file of their own. -/
theorem runWith_files_apart :
    (run (loopbackSettings "r") { current := [] } emptyPages).exitCode = 0
      ∧ (run (loopbackSettings "r") { current := [] } emptyPages).folder.readText "r".toList
        = .ok (TimedReport.document ((Surveyor.ofNetwork (loopbackSettings "r") emptyPages).reports
            [Gate.loopbackPage.toString])).text := by
  have hfree : IsFree { current := [] } "r".toList ["r".toList] := ⟨by decide +kernel, rfl, by decide +kernel⟩
  have hsuccess := exitCode_emptyPages hfree
  refine ⟨hsuccess, ?_⟩
  rw [run_eq_runWith] at hsuccess ⊢
  have hreport : (loopbackSettings "r").report = some "r" := rfl
  have hlist : (loopbackSettings "r").outputPath? = some "output.text" := rfl
  obtain ⟨targets, p, q, hload, hp, hq, -, hreported, -⟩ := runWith_files hreport hlist hsuccess
  have htargets := Except.ok.inj (hload.symm.trans (load_loopbackSettings "r"))
  have hne : p ≠ q := by
    rw [Except.ok.inj (hp.symm.trans hfree.locate), Except.ok.inj (hq.symm.trans isFree_output.locate)]
    decide +kernel
  rw [htargets] at hreported
  exact hreported.2 hne

/-- The reports in the file that the list goes to if no other is named: the run succeeds, and they are not there. -/
theorem run_overwrites_report :
    ∃ targets, Targets.load { current := [] } (loopbackSettings "output.text") = .ok targets
      ∧ (loopbackSettings "output.text").report = some "output.text"
      ∧ (loopbackSettings "output.text").outputPath? = some "output.text"
      ∧ (run (loopbackSettings "output.text") { current := [] } emptyPages).exitCode = 0
      ∧ (run (loopbackSettings "output.text") { current := [] } emptyPages).folder.readText "output.text".toList
        ≠ .ok (TimedReport.document ((Surveyor.ofNetwork (loopbackSettings "output.text") emptyPages).reports
            targets)).text := by
  obtain ⟨after, hcompleted⟩ := exists_completed_emptyPages isFree_output
  obtain ⟨told, hsession⟩ := hcompleted.runWith_eq
  obtain ⟨p, q, -, -, hlisted, -⟩ := hcompleted.files rfl rfl
  obtain ⟨r, hr, -⟩ := pageLoaded_emptyPages "output.text"
  refine ⟨_, load_loopbackSettings _, rfl, rfl, exitCode_emptyPages isFree_output, ?_⟩
  rw [run_eq_runWith, hsession]
  dsimp only
  rw [hlisted]
  intro hboth
  exact document_ne_listing (List.ne_nil_of_mem hr) _ _ (Except.ok.inj hboth).symm

end LinkSurvey.Session
