import LinkSurvey.Proofs.Survey.Entry
import LinkSurvey.Proofs.Survey.Reported
import LinkSurvey.Proofs.Targets
import LinkSurvey.Session

/-!
What a run delivers. A run that gets past its early exits delivers the links of all reports, in the same list
whatever the format: the lines of the output, the lines of a file, or the strings of an array in a file. It
succeeds if moreover some page could be loaded. A run that ends early delivers nothing to the output.

Nothing of this depends on how the surveys came to their reports, so it is shown for any that report on each
target in one of the ways there are; those over a network are an instance.
-/

namespace LinkSurvey

theorem UrlSet.mem_texts_union (s t : UrlSet) (text : List Char) :
    text ∈ (s.union t).texts ↔ text ∈ s.texts ∨ text ∈ t.texts := by
  rw [union, mem_texts_foldl mem_texts_insert]
  simp only [texts, List.mem_map, eq_comm]

/-- The lines of a text, if each of them has its end. -/
def Text.lines? (text : List Char) : Option (List (List Char)) :=
  let pieces := Targets.linesFrom [] text
  if pieces.getLast? = some [] then some pieces.dropLast else none

theorem UrlSet.Gated.lines?_lines {s : UrlSet} (h : s.Gated) : Text.lines? s.lines = some s.texts := by
  have hbreak : ∀ line ∈ s.texts, '\n' ∉ line := by
    intro line hline hmem
    obtain ⟨u, hu, rfl⟩ := List.mem_map.1 hline
    exact absurd ((h.isNormal u hu).isPrintable hmem) (by decide)
  rw [lines, Text.lines?, Targets.linesFrom_flatMap hbreak]
  simp

/-- Those who survey lists of targets: what they tell, and a report of each target in one of the ways there are.
They may be answered by servers that change with every request. -/
structure Surveyor (options : Survey.Options) where
  told : List String → String
  reports : List String → List TimedReport
  reported : ∀ targets, List.Forall₂ (fun target r => Survey.Reported options target r.toPageReport) targets
    (reports targets)

/-- The surveys over a network. -/
def Surveyor.ofNetwork (settings : Settings) (network : Fetch.Network) : Surveyor settings.surveyOptions where
  told targets :=
    (if settings.noBanner then "" else settings.console.banner)
      ++ settings.console.narration settings.logLevel (Survey.notices (Survey.pages settings.surveyOptions
        (settings.client.source network) settings.parallel.toNat targets))
  reports targets := Survey.reports (Survey.pages settings.surveyOptions (settings.client.source network)
    settings.parallel.toNat targets)
  reported targets := Survey.reported_pages settings.surveyOptions (settings.client.source network)
    settings.parallel.toNat targets

theorem Surveyor.gated {options : Survey.Options} (surveyor : Surveyor options) (targets : List String) :
    ∀ r ∈ surveyor.reports targets, r.urls.Gated := by
  have hreported := surveyor.reported targets
  generalize surveyor.reports targets = reports at hreported
  induction hreported with
  | nil => exact fun r hr => absurd hr List.not_mem_nil
  | cons hreport _ ih => exact List.forall_mem_cons.2 ⟨hreport.gated, ih⟩

namespace Session

/-! ### The links of all reports -/

theorem mem_texts_allUrls (reports : List TimedReport) (text : List Char) :
    text ∈ (allUrls reports).texts ↔ ∃ r ∈ reports, text ∈ r.urls.texts := by
  rw [allUrls, UrlSet.mem_texts_foldl fun s (r : TimedReport) => s.mem_texts_union r.urls]
  simp [UrlSet.texts, UrlSet.empty]

/-- All links of some reports, each once and in the order of their bytes. -/
structure IsUnion (reports : List TimedReport) (links : List (List Char)) : Prop where
  increasing : links.Pairwise fun a b => Text.Utf8.encode a < Text.Utf8.encode b
  mem_iff : ∀ text, text ∈ links ↔ ∃ r ∈ reports, text ∈ r.urls.texts

theorem isUnion_allUrls (reports : List TimedReport) : IsUnion reports (allUrls reports).texts where
  increasing := (allUrls reports).sorted_texts.imp Text.Utf8.encode_lt_encode
  mem_iff := mem_texts_allUrls reports

theorem gated_allUrls {reports : List TimedReport} (h : ∀ r ∈ reports, r.urls.Gated) :
    (allUrls reports).Gated :=
  List.foldlRecOn reports _ (motive := UrlSet.Gated) .empty fun _ hs r hr => .union hs (h r hr)

/-! ### Files that are written -/

/-- The files after a text was written, if there is a file for it. -/
def writeTo (path : Option String) (text : List Char) (folder : Folder) : Except FileError Folder :=
  match path with
  | none => .ok folder
  | some path => folder.writeText path.toList text

theorem fst_storeReports (settings : Settings) (folder : Folder) (reports : List TimedReport) :
    (storeReports settings reports folder).map Prod.fst
      = writeTo settings.report (TimedReport.document reports).text folder := by
  rw [storeReports]
  cases settings.report with
  | none => rfl
  | some path =>
      dsimp only [store, writeTo]
      cases folder.writeText path.toList (TimedReport.document reports).text <;> rfl

theorem fst_storeListing (settings : Settings) (folder : Folder) (urls : UrlSet) :
    (storeListing settings urls folder).map Prod.fst
      = writeTo settings.outputPath? (listing settings.output urls) folder := by
  rw [storeListing]
  cases settings.outputPath? with
  | none => rfl
  | some path =>
      dsimp only [store, writeTo]
      cases folder.writeText path.toList (listing settings.output urls) <;> rfl

theorem isSome_outputPath? (settings : Settings) :
    settings.outputPath?.isSome = true ↔ settings.output ≠ .console := by
  rw [Settings.outputPath?]
  cases settings.output <;> cases settings.outputFile <;> simp [OutputFormat.defaultFile?]

/-! ### Runs -/

variable {settings : Settings} {folder after : Folder}

/-- A run whose targets are surveyed in any way there is. -/
def runWith (settings : Settings) (folder : Folder) (surveyor : Surveyor settings.surveyOptions) : Session :=
  match Targets.load folder settings with
  | .error e => failed folder "" ("Failed to load targets: " ++ e.message)
  | .ok [] => failed folder "" "No targets specified. Use positional arguments or -f <file>."
  | .ok targets =>
    match settings.client.check with
    | .error e => failed folder "" ("Failed to create HTTP client: " ++ e.message)
    | .ok () => deliver settings folder (surveyor.told targets) (surveyor.reports targets)

theorem run_eq_runWith (settings : Settings) (folder : Folder) (network : Fetch.Network) :
    run settings folder network = runWith settings folder (.ofNetwork settings network) :=
  rfl

/-- A run that got past its early exits: it had targets and a client, and wrote what there were files for. -/
structure Completed (settings : Settings) (folder : Folder) (surveyor : Surveyor settings.surveyOptions)
    (targets : List String) (after : Folder) : Prop where
  load : Targets.load folder settings = .ok targets
  targets_ne_nil : targets ≠ []
  client : settings.client.check = .ok ()
  written : ∃ between,
    writeTo settings.report (TimedReport.document (surveyor.reports targets)).text folder = .ok between
      ∧ writeTo settings.outputPath? (listing settings.output (allUrls (surveyor.reports targets))) between
        = .ok after

variable {surveyor : Surveyor settings.surveyOptions} {targets : List String}

theorem eq_ok_of_fst {x : Except FileError (Folder × String)} (h : x.map Prod.fst = .ok after) :
    ∃ told, x = .ok (after, told) := by
  cases x with
  | error e => cases h
  | ok written => exact ⟨written.2, by rw [← Except.ok.inj h]⟩

/-- A run that got so far succeeds if a page could be loaded. Its links go to the output unless they went to a
file. -/
theorem Completed.runWith_eq (h : Completed settings folder surveyor targets after) :
    ∃ told, runWith settings folder surveyor =
      { exitCode := if ∃ r ∈ surveyor.reports targets, r.pageLoaded = true then 0 else 1
        stdout := if settings.output = .console then String.ofList (allUrls (surveyor.reports targets)).lines
          else ""
        stderr := told
        folder := after } := by
  obtain ⟨between, hreports, hlisting⟩ := h.written
  obtain ⟨toldReports, hreports⟩ := eq_ok_of_fst ((fst_storeReports settings folder _).trans hreports)
  obtain ⟨toldListing, hlisting⟩ := eq_ok_of_fst ((fst_storeListing settings between _).trans hlisting)
  have hrun : runWith settings folder surveyor
      = deliver settings folder (surveyor.told targets) (surveyor.reports targets) := by
    rw [runWith, h.load]
    cases targets with
    | nil => exact absurd rfl h.targets_ne_nil
    | cons target targets => simp only [h.client]
  have hloaded : ((surveyor.reports targets).all fun r => !r.pageLoaded) = true
      ↔ ¬∃ r ∈ surveyor.reports targets, r.pageLoaded = true := by
    simp [List.all_eq_true]
  rw [hrun, deliver]
  simp only [hreports, hlisting, hloaded, isSome_outputPath?, ne_eq, ite_not]
  split_ifs <;> exact ⟨_, rfl⟩

/-- A run that ends early fails, and delivers nothing. -/
theorem runWith_of_not_completed (h : ∀ targets after, ¬Completed settings folder surveyor targets after) :
    (runWith settings folder surveyor).exitCode = 1 ∧ (runWith settings folder surveyor).stdout = "" := by
  rw [runWith]
  split
  · exact ⟨rfl, rfl⟩
  · exact ⟨rfl, rfl⟩
  · rename_i targets hne hload
    split
    · exact ⟨rfl, rfl⟩
    · rename_i hclient
      rw [deliver]
      dsimp only
      split
      · exact ⟨rfl, rfl⟩
      · rename_i between toldReports hreports
        split
        · exact ⟨rfl, rfl⟩
        · rename_i after toldListing hlisting
          have hfirst := fst_storeReports settings folder (surveyor.reports targets)
          have hsecond := fst_storeListing settings between (allUrls (surveyor.reports targets))
          rw [hreports] at hfirst
          rw [hlisting] at hsecond
          exact absurd ⟨hload, hne, hclient, between, hfirst.symm, hsecond.symm⟩ (h targets after)

/-! ### What is delivered -/

/-- What is in the file that the list of links goes to. -/
def fileText? (settings : Settings) (session : Session) : Option (List Char) :=
  settings.outputPath?.bind fun path => (session.folder.readText path.toList).toOption

/-- The list of links as it is read from where the format has it: from the lines of the output, from the lines of
the file, or from the array in the file. -/
def delivered? (settings : Settings) (session : Session) : Option (List (List Char)) :=
  match settings.output with
  | .console => Text.lines? session.stdout.toList
  | .text => (fileText? settings session).bind Text.lines?
  | .json => ((fileText? settings session).bind Json.ofText?).bind UrlSet.textsOfJson?

theorem Completed.fileText?_eq (h : Completed settings folder surveyor targets after)
    (hfile : settings.output ≠ .console) : fileText? settings (runWith settings folder surveyor)
      = some (listing settings.output (allUrls (surveyor.reports targets))) := by
  obtain ⟨told, hsession⟩ := h.runWith_eq
  obtain ⟨between, -, hlisting⟩ := h.written
  obtain ⟨path, hpath⟩ := Option.isSome_iff_exists.1 ((isSome_outputPath? settings).2 hfile)
  rw [hpath] at hlisting
  rw [fileText?, hsession, hpath, Option.bind_some, Folder.readText_of_writeText hlisting]
  rfl

theorem Completed.delivered?_eq (h : Completed settings folder surveyor targets after) :
    delivered? settings (runWith settings folder surveyor)
      = some (allUrls (surveyor.reports targets)).texts := by
  have hgated : (allUrls (surveyor.reports targets)).Gated := gated_allUrls (surveyor.gated targets)
  rw [delivered?]
  cases hformat : settings.output with
  | console =>
      obtain ⟨told, hsession⟩ := h.runWith_eq
      simp only [hsession, if_pos hformat, String.toList_ofList]
      exact hgated.lines?_lines
  | text =>
      have htext := h.fileText?_eq (by rw [hformat]; decide)
      rw [hformat, listing, if_neg (by decide)] at htext
      simp only [htext, Option.bind_some]
      exact hgated.lines?_lines
  | json =>
      have htext := h.fileText?_eq (by rw [hformat]; decide)
      rw [hformat, listing, if_pos rfl] at htext
      simp only [htext, Option.bind_some, (UrlSet.isProper_toJson _).ofText?_text, UrlSet.textsOfJson?_toJson]

/-! ### Whole runs -/

theorem exitCode_eq_zero_iff (settings : Settings) (folder : Folder) (surveyor : Surveyor settings.surveyOptions) :
    (runWith settings folder surveyor).exitCode = 0 ↔
      ∃ targets after, Completed settings folder surveyor targets after
        ∧ ∃ r ∈ surveyor.reports targets, r.pageLoaded = true := by
  constructor
  · intro hzero
    by_contra hnone
    have hnot : ∀ targets after, ¬Completed settings folder surveyor targets after := by
      intro targets after h
      obtain ⟨told, hsession⟩ := h.runWith_eq
      have hloaded : ¬∃ r ∈ surveyor.reports targets, r.pageLoaded = true :=
        fun hloaded => hnone ⟨targets, after, h, hloaded⟩
      have hone : (1 : UInt32) ≠ 0 := by decide
      rw [hsession, if_neg hloaded] at hzero
      exact hone hzero
    rw [(runWith_of_not_completed hnot).1] at hzero
    exact absurd hzero (by decide)
  · rintro ⟨targets, after, h, hloaded⟩
    obtain ⟨told, hsession⟩ := h.runWith_eq
    rw [hsession]
    exact if_pos hloaded

theorem stdout_eq_empty (surveyor : Surveyor settings.surveyOptions) (h : settings.output ≠ .console
      ∨ ∀ targets after, ¬Completed settings folder surveyor targets after) :
    (runWith settings folder surveyor).stdout = "" := by
  by_cases hnone : ∀ targets after, ¬Completed settings folder surveyor targets after
  · exact (runWith_of_not_completed hnone).2
  · have hfile : settings.output ≠ .console := h.resolve_right hnone
    push Not at hnone
    obtain ⟨targets, after, hcompleted⟩ := hnone
    obtain ⟨told, hsession⟩ := hcompleted.runWith_eq
    rw [hsession]
    exact if_neg hfile

/-- The output holds nothing but links that passed the gate, one on each line. -/
theorem exists_stdout_eq (settings : Settings) (folder : Folder) (surveyor : Surveyor settings.surveyOptions) :
    ∃ links : UrlSet, links.Gated ∧ (runWith settings folder surveyor).stdout = String.ofList links.lines := by
  by_cases hempty : (runWith settings folder surveyor).stdout = ""
  · exact ⟨.empty, .empty, hempty⟩
  · have hcompleted : ∃ targets after, Completed settings folder surveyor targets after := by
      by_contra hnone
      push Not at hnone
      exact hempty (stdout_eq_empty surveyor (.inr hnone))
    have hconsole : settings.output = .console := by
      by_contra hfile
      exact hempty (stdout_eq_empty surveyor (.inl hfile))
    obtain ⟨targets, after, h⟩ := hcompleted
    obtain ⟨told, hsession⟩ := h.runWith_eq
    refine ⟨_, gated_allUrls (surveyor.gated targets), ?_⟩
    rw [hsession]
    exact if_pos hconsole

/-- Whatever the servers answer, a run succeeds if and only if it had targets and a client, wrote the files that
were asked for, and some page could be loaded. If it got as far as writing its files, it delivers the links of all
reports, each once and in the order of their bytes, and in another format it would deliver the same list. The
output is empty if it did not get so far or if the list goes to a file, and never holds anything but links. -/
theorem runWith_delivers (settings : Settings) (folder : Folder) (surveyor : Surveyor settings.surveyOptions) :
    ((runWith settings folder surveyor).exitCode = 0 ↔
        ∃ targets after, Completed settings folder surveyor targets after
          ∧ ∃ r ∈ surveyor.reports targets, r.pageLoaded = true)
      ∧ (∀ targets after, Completed settings folder surveyor targets after →
        (runWith settings folder surveyor).folder = after
          ∧ ∃ links, delivered? settings (runWith settings folder surveyor) = some links
            ∧ IsUnion (surveyor.reports targets) links)
      ∧ (∀ output outputFile targets other after after', Completed settings folder surveyor targets after →
        Completed { settings with output, outputFile } folder surveyor other after' →
        delivered? { settings with output, outputFile }
            (runWith { settings with output, outputFile } folder surveyor)
          = delivered? settings (runWith settings folder surveyor))
      ∧ (settings.output ≠ .console ∨ (∀ targets after, ¬Completed settings folder surveyor targets after) →
        (runWith settings folder surveyor).stdout = "")
      ∧ (∃ links : UrlSet, links.Gated ∧ (runWith settings folder surveyor).stdout = String.ofList links.lines)
      ∧ (∀ network, run settings folder network = runWith settings folder (.ofNetwork settings network))
      ∧ ∀ fromEnvironment args network, CommandLine.read fromEnvironment args = .ok settings →
        ofArguments fromEnvironment args folder network
          = runWith settings folder (.ofNetwork settings network) := by
  refine ⟨exitCode_eq_zero_iff settings folder surveyor, ?_, ?_, stdout_eq_empty surveyor,
    exists_stdout_eq settings folder surveyor, run_eq_runWith settings folder, ?_⟩
  · intro targets after h
    obtain ⟨told, hsession⟩ := h.runWith_eq
    refine ⟨?_, _, h.delivered?_eq, isUnion_allUrls (surveyor.reports targets)⟩
    rw [hsession]
  · intro output outputFile targets other after after' h h'
    -- The targets do not depend on where the links go.
    have hsame : other = targets := Except.ok.inj (h'.load.symm.trans h.load)
    rw [h'.delivered?_eq, h.delivered?_eq, hsame]
  · intro fromEnvironment args network hread
    rw [ofArguments, hread, ← run_eq_runWith]

end Session

end LinkSurvey
