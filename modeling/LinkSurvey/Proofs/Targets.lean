import LinkSurvey.Proofs.Folder
import LinkSurvey.Proofs.Text.Blank
import LinkSurvey.Proofs.UrlSet.Gated
import LinkSurvey.Survey.Document
import LinkSurvey.Targets

/-!
The list of links that one run leaves is a list of targets for the next. Links are printable and start with
a scheme, so each is a line of its own, nothing is cut off at its ends, no line is taken for a comment, and
no scheme is put in front; and the links that are read so make up the set they were written from.
-/

namespace LinkSurvey

namespace Text

theorem isBlank_of_isPrintable {c : Char} (h : Url.IsPrintable c) : isBlank c = false := by
  obtain ⟨hlow, hhigh⟩ := h
  simp only [isBlank, Bool.or_eq_false_iff, Bool.and_eq_false_iff, decide_eq_false_iff_not,
    beq_eq_false_iff_ne]
  omega

end Text

namespace Targets

/-! ### Lines -/

theorem linesFrom_append (start : List Char) {line : List Char} (h : '\n' ∉ line) (rest : List Char) :
    linesFrom start (line ++ '\n' :: rest) = (start.reverse ++ line) :: linesFrom [] rest := by
  induction line generalizing start with
  | nil => rw [List.nil_append, linesFrom, if_pos rfl, List.append_nil]
  | cons c line ih =>
      rw [List.mem_cons, not_or] at h
      rw [List.cons_append, linesFrom, if_neg (Ne.symm h.1), ih _ h.2, List.reverse_cons, List.append_assoc,
        List.singleton_append]

/-- After the last line end there is one more line, which is empty. -/
theorem linesFrom_flatMap {lines : List (List Char)} (h : ∀ line ∈ lines, '\n' ∉ line) :
    linesFrom [] (lines.flatMap (· ++ ['\n'])) = lines ++ [[]] := by
  induction lines with
  | nil => rfl
  | cons line lines ih =>
      obtain ⟨hline, hlines⟩ := List.forall_mem_cons.1 h
      rw [List.flatMap_cons, List.append_assoc, List.singleton_append, linesFrom_append [] hline, ih hlines]
      rfl

/-! ### Schemes -/

theorem hasScheme_iff {target : List Char} :
    hasScheme target = true ↔ "http://".toList <+: target ∨ "https://".toList <+: target := by
  rw [hasScheme, Bool.or_eq_true, List.isPrefixOf_iff_prefix, List.isPrefixOf_iff_prefix]

/-- A line that is a target as it stands. -/
structure IsTarget (line : List Char) : Prop where
  printable : ∀ c ∈ line, Url.IsPrintable c
  scheme : hasScheme line = true

theorem IsTarget.trim {line : List Char} (h : IsTarget line) : Text.trim line = line :=
  Text.trim_of_solid fun c hc => Text.isBlank_of_isPrintable (h.printable c hc)

theorem IsTarget.withScheme {line : List Char} (h : IsTarget line) : withScheme line = line := by
  rw [Targets.withScheme, h.trim]
  exact if_pos h.scheme

theorem IsTarget.head? {line : List Char} (h : IsTarget line) : line.head? = some 'h' := by
  rcases hasScheme_iff.1 h.scheme with ⟨rest, rfl⟩ | ⟨rest, rfl⟩ <;> rfl

theorem ofText_lines {lines : List (List Char)} (h : ∀ line ∈ lines, IsTarget line) :
    ofText (lines.flatMap (· ++ ['\n'])) = lines := by
  have hbreak : ∀ line ∈ lines, '\n' ∉ line := fun line hline hmem =>
    absurd ((h line hline).printable '\n' hmem) (by decide)
  have htrim : lines.map Text.trim = lines := by
    calc lines.map Text.trim = lines.map id := List.map_congr_left fun line hline => (h line hline).trim
      _ = lines := List.map_id lines
  rw [ofText, linesFrom_flatMap hbreak, List.map_append, htrim, List.filter_append]
  have hkept : lines.filter (fun line => !line.isEmpty && line.head? != some '#') = lines := by
    refine List.filter_eq_self.2 fun line hline => ?_
    obtain ⟨rest, rfl⟩ := List.head?_eq_some_iff.1 (h line hline).head?
    rfl
  rw [hkept]
  exact List.append_nil lines

/-! ### Loading -/

variable {folder : Folder} {settings : Settings}

theorem load_of_no_file (hfile : settings.file = none) :
    load folder settings = .ok (settings.targets.map fun target => String.ofList (withScheme target.toList)) := by
  simp [load, hfile, bind, Except.bind, pure, Except.pure]

theorem load_of_file {path : String} {text : List Char} (hfile : settings.file = some path)
    (hread : folder.readText path.toList = .ok text) :
    load folder settings = .ok ((settings.targets.map String.toList ++ ofText text).map
      fun target => String.ofList (withScheme target)) := by
  simp [load, hfile, hread, Except.map, bind, Except.bind, pure, Except.pure]

/-! ### Links as targets -/

theorem isTarget_text {u : WebUrl} (h : u.IsNormal) : IsTarget u.text := by
  refine ⟨fun c hc => h.isPrintable hc, hasScheme_iff.2 ?_⟩
  obtain ⟨rest, htext⟩ := h.exists_text_eq
  rcases htext with htext | htext
  · exact Or.inl ⟨rest, htext.symm⟩
  · exact Or.inr ⟨rest, htext.symm⟩

theorem load_of_readText {path : String} {lines : List (List Char)}
    (htargets : settings.targets = []) (hfile : settings.file = some path)
    (hread : folder.readText path.toList = .ok (lines.flatMap (· ++ ['\n'])))
    (hlines : ∀ line ∈ lines, IsTarget line) : load folder settings = .ok (lines.map String.ofList) := by
  have hscheme : ∀ line ∈ lines, String.ofList (withScheme line) = String.ofList line := fun line hline => by
    rw [(hlines line hline).withScheme]
  rw [load_of_file hfile hread, htargets, ofText_lines hlines, List.map_nil, List.nil_append,
    List.map_congr_left hscheme]

theorem toList_toString (s : UrlSet) : (s.members.map WebUrl.toString).map String.toList = s.texts := by
  rw [List.map_map]
  exact List.map_congr_left fun u _ => String.toList_ofList

theorem load_members {s : UrlSet} (hs : s.IsNormal) {before after : Folder} {path : String}
    (hwrite : before.writeText path.toList s.lines = .ok after) (htargets : settings.targets = [])
    (hfile : settings.file = some path) : load after settings = .ok (s.members.map WebUrl.toString) := by
  have hlines : ∀ line ∈ s.texts, IsTarget line := by
    intro line hline
    obtain ⟨u, hu, rfl⟩ := List.mem_map.1 hline
    exact isTarget_text (hs u hu)
  rw [load_of_readText htargets hfile (Folder.readText_of_writeText hwrite) hlines, UrlSet.texts, List.map_map]
  rfl

/-- A file to which the links of a set were written, given as the only source of targets, gives the links as
they are and in their order. Let through the gate again, on any page, they are all new and make up the set
that was written if and only if the hosts of all of them stand for themselves. -/
theorem load_written {s : UrlSet} (hs : s.Gated) {before after : Folder} {path : String}
    (hwrite : before.writeText path.toList s.lines = .ok after) {settings : Settings}
    (htargets : settings.targets = []) (hfile : settings.file = some path) :
    load after settings = .ok (s.members.map WebUrl.toString)
      ∧ ∀ page : Url,
        UrlSet.empty.offerAll page ((s.members.map WebUrl.toString).map String.toList) = (s, s.size)
          ↔ ∀ u ∈ s.members, u.StandsForItself := by
  rw [toList_toString]
  exact ⟨load_members hs.isNormal hwrite htargets hfile, hs.isNormal.offerAll_texts_iff⟩

/-- What three candidates of the page `http://[::1]/a/b` come to, of which the last sorts before the first. -/
def loopbackLinks : UrlSet :=
  (UrlSet.empty.offerAll Gate.loopbackPage [['é'], ['?', '#'], ['/', 'a', '\\', '"']]).1

theorem load_written_loopback :
    loopbackLinks.size = 3 ∧ loopbackLinks.Gated ∧
      ∃ after, Folder.writeText { current := [['h']] } (String.ofList ['l']).toList loopbackLinks.lines = .ok after
        ∧ load after { file := some (String.ofList ['l']) } = .ok (loopbackLinks.members.map WebUrl.toString)
        ∧ UrlSet.empty.offerAll Gate.loopbackPage ((loopbackLinks.members.map WebUrl.toString).map String.toList)
          = (loopbackLinks, loopbackLinks.size) := by
  have hparse : Url.parse (String.ofList
      ['h', 't', 't', 'p', ':', '/', '/', '[', ':', ':', '1', ']', '/', 'a', '/', 'b'])
      = .ok Gate.loopbackPage := by
    rw [Url.parse, String.toList_ofList]
    rfl
  have hgated : loopbackLinks.Gated := .offerAll .empty (.parse hparse) _
  obtain ⟨after, hwrite⟩ : ∃ after,
      Folder.writeText { current := [['h']] } (String.ofList ['l']).toList loopbackLinks.lines = .ok after := by
    rw [String.toList_ofList]
    exact ⟨_, rfl⟩
  have hself : ∀ u ∈ loopbackLinks.members, u.StandsForItself := by
    have hhosts : ∀ u ∈ loopbackLinks.members, u.url.authority = Gate.loopbackPage.authority := by
      decide +kernel
    intro u hu a ha
    rw [hhosts u hu] at ha
    cases ha
    trivial
  have hfile : ({ file := some (String.ofList ['l']) } : Settings).file = some (String.ofList ['l']) := rfl
  obtain ⟨hload, hagain⟩ := load_written hgated hwrite rfl hfile
  exact ⟨rfl, hgated, after, hwrite, hload, (hagain Gate.loopbackPage).2 hself⟩

/-- A link to a host whose digits are too many to be read is written and loaded, but does not make up its set again. -/
theorem load_written_distant :
    ∃ u after, Gate.normalize Gate.loopbackPage (Gate.distantCandidate []) = .ok u
      ∧ Folder.writeText { current := [['h']] } (String.ofList ['l']).toList (UrlSet.empty.insertNew u).1.lines
        = .ok after
      ∧ load after { file := some (String.ofList ['l']) } = .ok [u.toString]
      ∧ UrlSet.empty.offerAll Gate.loopbackPage [u.toString.toList] ≠ ((UrlSet.empty.insertNew u).1, 1) := by
  obtain ⟨u, hu, hdistant⟩ := Gate.exists_normalize_distantCandidate Gate.loopbackPage []
  have hgated : (UrlSet.empty.insertNew u).1.Gated := .insert .empty Gate.read_loopbackPage hu
  obtain ⟨after, hwrite⟩ : ∃ after, Folder.writeText { current := [['h']] } (String.ofList ['l']).toList
      (UrlSet.empty.insertNew u).1.lines = .ok after := by
    rw [String.toList_ofList]
    exact ⟨_, rfl⟩
  refine ⟨u, after, hu, hwrite, load_members hgated.isNormal hwrite rfl rfl, fun hsame => ?_⟩
  rw [WebUrl.toString, String.toList_ofList] at hsame
  exact hdistant ((hgated.isNormal.offerAll_texts_iff Gate.loopbackPage).1 hsame u (List.mem_singleton_self u))

end Targets

end LinkSurvey
