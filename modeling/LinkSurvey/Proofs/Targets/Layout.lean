import LinkSurvey.Proofs.Targets.Scheme

/-!
Files of targets. A line of such a file lists a target with blanks around it, or it is blank or a comment; and lines
end in a line feed, with or without a carriage return in front of it. Every text is laid out like this for one list of
targets, and this is the list that is read from it. What was loaded once is loaded again as it is.
-/

namespace LinkSurvey.Targets

/-! ### Layouts -/

/-- Blanks on one line. -/
structure IsMargin (margin : List Char) : Prop where
  gap : Text.IsGap margin
  oneLine : '\n' ∉ margin

instance (margin : List Char) : Decidable (IsMargin margin) :=
  decidable_of_iff (Text.IsGap margin ∧ '\n' ∉ margin) ⟨fun h => ⟨h.1, h.2⟩, fun h => ⟨h.gap, h.oneLine⟩⟩

/-- A target that a line can list: there is something in it, no blank at either end, and it is no comment. -/
structure IsListed (target : List Char) : Prop where
  ne_nil : target ≠ []
  oneLine : '\n' ∉ target
  solid_head : ∀ c ∈ target.head?, Text.isBlank c = false
  solid_last : ∀ c ∈ target.getLast?, Text.isBlank c = false
  not_comment : target.head? ≠ some '#'

instance (target : List Char) : Decidable (IsListed target) :=
  decidable_of_iff (target ≠ [] ∧ '\n' ∉ target ∧ target.head?.all (!Text.isBlank ·)
      ∧ target.getLast?.all (!Text.isBlank ·) ∧ target.head? ≠ some '#') <| by
    simp only [Option.all_eq_true, Bool.not_eq_true']
    exact ⟨fun ⟨h₁, h₂, h₃, h₄, h₅⟩ => ⟨h₁, h₂, h₃, h₄, h₅⟩,
      fun h => ⟨h.ne_nil, h.oneLine, h.solid_head, h.solid_last, h.not_comment⟩⟩

/-- A line of a file, without what ends it, and the target that it lists if it does. -/
inductive Row : Option (List Char) → List Char → Prop where
  | target {before target after : List Char} (hbefore : IsMargin before) (htarget : IsListed target)
      (hafter : IsMargin after) : Row (some target) (before ++ target ++ after)
  | blank {line : List Char} (h : IsMargin line) : Row none line
  | comment {indent text : List Char} (hindent : IsMargin indent) (htext : '\n' ∉ text) :
      Row none (indent ++ '#' :: text)

/-- A file and the targets that it lists, in their order. -/
inductive Layout : List (List Char) → List Char → Prop where
  | last {listed : Option (List Char)} {line : List Char} (h : Row listed line) : Layout listed.toList line
  | row {listed : Option (List Char)} {line ending text : List Char} {targets : List (List Char)}
      (h : Row listed line) (hending : ending = ['\n'] ∨ ending = ['\r', '\n']) (rest : Layout targets text) :
      Layout (listed.toList ++ targets) (line ++ ending ++ text)

theorem IsListed.trim {target : List Char} (h : IsListed target) : Text.trim target = target :=
  Text.trim_of_solid_ends h.solid_head h.solid_last

theorem Row.oneLine {listed : Option (List Char)} {line : List Char} (h : Row listed line) : '\n' ∉ line := by
  cases h with
  | target hbefore htarget hafter => simp [hbefore.oneLine, htarget.oneLine, hafter.oneLine]
  | blank h => exact h.oneLine
  | comment hindent htext => simp [hindent.oneLine, htext]

/-- What is kept of a line once the blanks around it are gone. -/
def kept? (line : List Char) : Option (List Char) :=
  if Text.trim line ≠ [] ∧ (Text.trim line).head? ≠ some '#' then some (Text.trim line) else none

theorem ofText_eq_filterMap (text : List Char) : ofText text = (linesFrom [] text).filterMap kept? := by
  rw [ofText_eq, ← List.filterMap_eq_map, List.filterMap_filter]
  congr 1
  funext line
  simp [kept?]

/-- Of a line the target that it lists is kept, also if a carriage return is left at its end. -/
theorem Row.kept? {listed : Option (List Char)} {line gap : List Char} (h : Row listed line)
    (hgap : Text.IsGap gap) : kept? (line ++ gap) = listed := by
  have htrim : Text.trim (line ++ gap) = Text.trim line := Text.isGap_nil.trim_append hgap line
  rw [Targets.kept?, htrim]
  cases h with
  | target hbefore htarget hafter =>
      rw [hbefore.gap.trim_append hafter.gap, htarget.trim]
      exact if_pos ⟨htarget.ne_nil, htarget.not_comment⟩
  | blank h =>
      rw [h.gap.trim]
      rfl
  | @comment indent text hindent htext =>
      have hmark : Text.isBlank '#' = false := rfl
      have hline := hindent.gap.trim_append Text.isGap_nil ('#' :: text)
      rw [List.append_nil, Text.trim_cons hmark] at hline
      rw [hline]
      simp

theorem linesFrom_of_not_mem (start : List Char) {line : List Char} (h : '\n' ∉ line) :
    linesFrom start line = [start.reverse ++ line] := by
  induction line generalizing start with
  | nil => simp [linesFrom]
  | cons c line ih =>
      rw [List.mem_cons, not_or] at h
      rw [linesFrom, if_neg (Ne.symm h.1), ih _ h.2]
      simp

/-- The targets that a file lists are read from it. -/
theorem Layout.ofText {targets : List (List Char)} {text : List Char} (h : Layout targets text) :
    ofText text = targets := by
  rw [ofText_eq_filterMap]
  induction h with
  | @last listed line h =>
      have hkept := h.kept? Text.isGap_nil
      rw [List.append_nil] at hkept
      rw [linesFrom_of_not_mem [] h.oneLine]
      cases listed <;> simp [hkept]
  | @row listed line ending text targets h hending rest ih =>
      -- The carriage return, if there is one, stays with the line.
      obtain ⟨gap, hgap, hline, rfl⟩ : ∃ gap, Text.IsGap gap ∧ '\n' ∉ line ++ gap ∧ ending = gap ++ ['\n'] := by
        rcases hending with rfl | rfl
        · exact ⟨[], Text.isGap_nil, by simp [h.oneLine], rfl⟩
        · exact ⟨['\r'], by decide, by simp [h.oneLine], rfl⟩
      have hlines : linesFrom [] (line ++ (gap ++ ['\n']) ++ text) = (line ++ gap) :: linesFrom [] text := by
        have hsplit := linesFrom_append [] hline text
        simpa using hsplit
      rw [hlines, List.filterMap_cons, h.kept? hgap, ih]
      cases listed <;> rfl

theorem exists_row {line : List Char} (h : '\n' ∉ line) : ∃ listed, Row listed line := by
  obtain ⟨before, after, hbefore, hafter, hline⟩ := Text.exists_around line
  have hhead := Text.solid_head_trim line
  have hlast := Text.solid_last_trim line
  generalize Text.trim line = inner at hline hhead hlast
  subst hline
  simp only [List.mem_append, not_or] at h
  obtain ⟨⟨hone, hinner⟩, hend⟩ := h
  cases inner with
  | nil =>
      refine ⟨none, .blank ⟨fun c hc => ?_, by simp [hone, hend]⟩⟩
      rw [List.append_nil, List.mem_append] at hc
      exact hc.elim (hbefore c) (hafter c)
  | cons c cs =>
      by_cases hmark : c = '#'
      · subst hmark
        rw [List.append_assoc, List.cons_append]
        have htext : '\n' ∉ cs ++ after := by
          rw [List.mem_cons, not_or] at hinner
          simp [hinner.2, hend]
        exact ⟨none, .comment ⟨hbefore, hone⟩ htext⟩
      · have hlisted : IsListed (c :: cs) := ⟨List.cons_ne_nil c cs, hinner, hhead, hlast, by simpa using hmark⟩
        exact ⟨_, .target ⟨hbefore, hone⟩ hlisted ⟨hafter, hend⟩⟩

/-- Every text is a file of targets. -/
theorem exists_layout (text : List Char) : ∃ targets, Layout targets text := by
  induction hlength : text.length using Nat.strong_induction_on generalizing text with
  | _ n ih =>
      by_cases hmem : '\n' ∈ text
      · obtain ⟨line, rest, rfl, hline⟩ := List.eq_append_cons_of_mem hmem
        obtain ⟨listed, hrow⟩ := exists_row hline
        obtain ⟨targets, hrest⟩ := ih rest.length (by simp [← hlength]; omega) rest rfl
        refine ⟨listed.toList ++ targets, ?_⟩
        have hlayout := Layout.row hrow (Or.inl rfl) hrest
        simpa using hlayout
      · obtain ⟨listed, hrow⟩ := exists_row hmem
        exact ⟨_, .last hrow⟩

/-! ### Loading -/

theorem prefix_withScheme (target : List Char) :
    "http://".toList <+: withScheme target ∨ "https://".toList <+: withScheme target := by
  simp only [withScheme]
  split_ifs with hscheme
  · exact hasScheme_iff.1 hscheme
  · exact Or.inr (List.prefix_append _ _)

/-- What is put in front is not blank, and what comes after it is trimmed already. -/
theorem trim_withScheme (target : List Char) : Text.trim (withScheme target) = withScheme target := by
  simp only [withScheme]
  split_ifs with hscheme
  · exact Text.trim_trim target
  · apply Text.trim_of_solid_ends
    · intro c hc
      have hfirst : some 'h' = some c := hc
      rw [← Option.some.inj hfirst]
      rfl
    · intro c hc
      rw [Option.mem_def, List.getLast?_append, Option.or_eq_some_iff] at hc
      rcases hc with hlast | ⟨-, hlast⟩
      · exact Text.solid_last_trim target c hlast
      · have hslash : some '/' = some c := hlast
        rw [← Option.some.inj hslash]
        rfl

theorem withScheme_withScheme (target : List Char) : withScheme (withScheme target) = withScheme target := by
  have hscheme : hasScheme (withScheme target) = true := hasScheme_iff.2 (prefix_withScheme target)
  rw [withScheme, trim_withScheme, if_pos hscheme]

theorem load_of_layout {folder : Folder} {settings : Settings} {path : String} {text : List Char}
    {listed : List (List Char)} (hfile : settings.file = some path)
    (hread : folder.read path.toList = .ok (Text.Utf8.encode text)) (hlayout : Layout listed text) :
    ∃ strings, load folder settings = .ok strings
      ∧ strings.map String.toList = (settings.targets.map String.toList ++ listed).map withScheme := by
  have htext : folder.readText path.toList = .ok text := by
    simp [Folder.readText, hread, bind, Except.bind, Text.Utf8.decode?_encode]
  refine ⟨_, load_of_file hfile htext, ?_⟩
  rw [hlayout.ofText, List.map_map]
  exact List.map_congr_left fun target _ => String.toList_ofList

section Again

variable {strings : List String} {given : List (List Char)} (h : strings.map String.toList = given.map withScheme)
include h

theorem exists_withScheme_of_mem {s : String} (hs : s ∈ strings) : ∃ target, withScheme target = s.toList := by
  have hmem : s.toList ∈ given.map withScheme := by
    rw [← h]
    exact List.mem_map_of_mem hs
  obtain ⟨target, -, htarget⟩ := List.mem_map.1 hmem
  exact ⟨target, htarget⟩

theorem load_again {folder : Folder} {settings : Settings} (htargets : settings.targets = strings)
    (hfile : settings.file = none) : load folder settings = .ok strings := by
  have hsame : ∀ s ∈ strings, String.ofList (withScheme s.toList) = s := by
    intro s hs
    obtain ⟨target, htarget⟩ := exists_withScheme_of_mem h hs
    rw [← htarget, withScheme_withScheme, htarget, String.ofList_toList]
  rw [load_of_no_file hfile, htargets, List.map_congr_left hsame, List.map_id']

end Again

/-- Every text in a file lists some targets, and whatever targets it lists, a run is given those of the command line and
then these, in their order and each with its scheme. A run that is given the result as its targets takes it as it
is. -/
theorem load_layout {folder : Folder} {settings : Settings} {path : String} {text : List Char}
    (hfile : settings.file = some path) (hread : folder.read path.toList = .ok (Text.Utf8.encode text)) :
    (∃ listed, Layout listed text) ∧ ∀ listed, Layout listed text →
      ∃ strings, load folder settings = .ok strings
        ∧ strings.map String.toList = (settings.targets.map String.toList ++ listed).map withScheme
        ∧ (∀ s ∈ strings, "http://".toList <+: s.toList ∨ "https://".toList <+: s.toList)
        ∧ ∀ (elsewhere : Folder) (next : Settings), next.targets = strings → next.file = none →
          load elsewhere next = .ok strings := by
  refine ⟨exists_layout text, fun listed hlayout => ?_⟩
  obtain ⟨strings, hload, hstrings⟩ := load_of_layout hfile hread hlayout
  refine ⟨strings, hload, hstrings, fun s hs => ?_, fun elsewhere next => load_again hstrings⟩
  obtain ⟨target, htarget⟩ := exists_withScheme_of_mem hstrings hs
  rw [← htarget]
  exact prefix_withScheme target

/-- A comment, a target between blanks, a blank line, an indented comment, and a target with a carriage return in it
and no line end after it. -/
def mixedListing : List Char :=
  ['#', 'a', '\r', '\n', ' ', '\u00A0', 'b', ' ', '#', '\t', '\r', '\n', '\n', ' ', '#', '\n',
    'h', 't', 't', 'p', ':', '/', '/', 'c', '\r', 'd']

theorem layout_mixedListing :
    Layout [['b', ' ', '#'], ['h', 't', 't', 'p', ':', '/', '/', 'c', '\r', 'd']] mixedListing := by
  have hnone : IsMargin [] := by decide
  have hcomment : Row none ([] ++ '#' :: ['a']) := .comment hnone (by decide)
  have hpadded : Row (some ['b', ' ', '#']) ([' ', '\u00A0'] ++ ['b', ' ', '#'] ++ ['\t']) :=
    .target (by decide +kernel) (by decide +kernel) (by decide +kernel)
  have hindented : Row none ([' '] ++ '#' :: []) := .comment (by decide) (by decide)
  have hplain : Row (some ['h', 't', 't', 'p', ':', '/', '/', 'c', '\r', 'd'])
      ([] ++ ['h', 't', 't', 'p', ':', '/', '/', 'c', '\r', 'd'] ++ []) :=
    .target hnone (by decide +kernel) hnone
  exact .row hcomment (.inr rfl) (.row hpadded (.inr rfl) (.row (.blank hnone) (.inl rfl)
    (.row hindented (.inl rfl) (.last hplain))))

theorem load_layout_mixed :
    ∃ (folder : Folder) (settings : Settings),
      settings.file = some (String.ofList ['l'])
      ∧ folder.read (String.ofList ['l']).toList = .ok (Text.Utf8.encode mixedListing)
      ∧ settings.targets = [" HTTP://e\n"]
      ∧ load folder settings = .ok ["https://HTTP://e", "https://b #", "http://c\rd"]
      ∧ load folder { targets := ["https://HTTP://e", "https://b #", "http://c\rd"] }
        = .ok ["https://HTTP://e", "https://b #", "http://c\rd"] := by
  let folder : Folder := { current := [['h']], files := [([['h'], ['l']], Text.Utf8.encode mixedListing)] }
  let settings : Settings := { targets := [" HTTP://e\n"], file := some (String.ofList ['l']) }
  have hfile : settings.file = some (String.ofList ['l']) := rfl
  have hread : folder.read (String.ofList ['l']).toList = .ok (Text.Utf8.encode mixedListing) := by
    rw [String.toList_ofList]
    rfl
  obtain ⟨strings, hload, hstrings, -, hagain⟩ := (load_layout hfile hread).2 _ layout_mixedListing
  obtain rfl : strings = ["https://HTTP://e", "https://b #", "http://c\rd"] := by
    apply List.map_injective_iff.2 fun _ _ => String.toList_injective
    rw [hstrings]
    decide +kernel
  exact ⟨folder, settings, hfile, hread, rfl, hload, hagain folder _ rfl rfl⟩

end LinkSurvey.Targets
