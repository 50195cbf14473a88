import Mathlib
import LinkSurvey.Proofs.Gate.Soundness
import LinkSurvey.Proofs.Targets
import LinkSurvey.Proofs.Url.Named

/-!
Targets that are URLs already. A target whose scheme is written in small letters is loaded as it stands. The scheme
is told by its letters as they are, though a URL may write it in either case, so a target whose scheme has a capital
letter gets a second scheme in front and is read as a URL of the host `http` or `https`: its own scheme becomes the
name of the host, and its host the start of the path.
-/

namespace LinkSurvey

namespace Text

/-! ### Letters of either case -/

theorem toNat_lt_of_isUpper {c : Char} (h : c.isUpper = true) : c.toNat < 128 := by
  rw [Char.isUpper, decide_eq_true_eq] at h
  exact Nat.lt_of_le_of_lt (UInt32.le_iff_toNat_le.1 h.2) (by decide)

theorem toNat_lt_of_toLower {c : Char} (h : c.toLower.toNat < 128) : c.toNat < 128 := by
  by_cases hupper : c.isUpper = true
  · exact toNat_lt_of_isUpper hupper
  · rwa [Char.toLower_eq_of_not_isUpper hupper] at h

/-- A character that is no letter is the lower case of itself alone. -/
theorem eq_of_toLower_eq {c d : Char} (h : c.toLower = d) (hd : d.isAlpha = false) : c = d := by
  by_cases hupper : c.isUpper = true
  · have halpha : c.toLower.isAlpha = true := by
      rw [Char.isAlpha_toLower_eq_isAlpha, Char.isAlpha, hupper, Bool.true_or]
    rw [h, hd] at halpha
    cases halpha
  · rwa [Char.toLower_eq_of_not_isUpper hupper] at h

end Text

namespace Url

/-! ### A scheme in the place of a host -/

theorem isSchemeChar_of_isAlpha {c : Char} (h : c.isAlpha = true) : isSchemeChar c = true := by
  rw [isSchemeChar, Char.isAlphanum, h]
  rfl

section Letters

variable {name lower : List Char} (hletters : ∀ c ∈ name, c.isAlpha = true)
include hletters

theorem not_mem_of_letters {d : Char} (hd : d.isAlpha = false) : d ∉ name := by
  intro hmem
  rw [hletters d hmem] at hd
  cases hd

theorem isHostText_of_letters (hname : name ≠ []) : IsHostText name where
  ne_nil := hname
  isHostChar := by
    intro c hc
    have hother : c ∉ ['/', '\\', '?', '#', '@'] := by
      intro hmem
      have hall : ['/', '\\', '?', '#', '@'].all (fun d => !d.isAlpha) = true := by decide
      have halpha := List.all_eq_true.1 hall c hmem
      rw [hletters c hc] at halpha
      cases halpha
    rw [isHostChar, decide_eq_true (visible_of_isSchemeChar (isSchemeChar_of_isAlpha (hletters c hc)))]
    simpa using hother
  not_mem_colon := not_mem_of_letters hletters (by decide)
  not_mem_bracket := not_mem_of_letters hletters (by decide)

/-- A name of letters is read in small letters. -/
theorem ofText_of_letters (hlower : name.map Char.toLower = lower) (hne : lower ≠ [])
    (hascii : DomainName.toAscii? lower = some lower) (hnumber : endsInNumber lower = false) :
    Host.ofText name = .ok (.name lower) := by
  have hbracket : name.head? ≠ some '[' := fun hhead =>
    not_mem_of_letters hletters (by decide) (List.mem_of_mem_head? hhead)
  have hpercent : '%' ∉ name := not_mem_of_letters hletters (by decide)
  have hsmall : ∀ c ∈ name, c.toNat < 128 := by
    intro c hc
    refine Text.toNat_lt_of_toLower ?_
    have hmem : c.toLower ∈ lower := by
      rw [← hlower]
      exact List.mem_map_of_mem hc
    exact ((DomainName.isNameChar_iff _).1 (DomainName.isNameChar_of_toAscii? hascii _ hmem)).1
  have hname : DomainName.toAscii? name = some lower := by
    rw [← DomainName.toAscii?_map_toLower hsmall, hlower, hascii]
  rw [ofText_of_toAscii? hbracket hpercent hname hne, hnumber]
  rfl

end Letters

end Url

namespace Targets

/-! ### Targets with a scheme in either letter case -/

/-- A target whose trimmed text starts with one of the two schemes and two slashes, in letters of either case. -/
def IsWeb (target : List Char) : Prop :=
  hasScheme ((Text.trim target).map Char.toLower) = true

theorem IsWeb.exists_scheme {target : List Char} (h : IsWeb target) :
    ∃ name rest, (name.map Char.toLower = Url.http ∨ name.map Char.toLower = Url.https)
      ∧ Text.trim target = name ++ ':' :: '/' :: '/' :: rest := by
  have hspelled : ∀ scheme : List Char,
      scheme ++ [':', '/', '/'] <+: (Text.trim target).map Char.toLower →
      ∃ name rest, name.map Char.toLower = scheme ∧ Text.trim target = name ++ ':' :: '/' :: '/' :: rest := by
    rintro scheme ⟨rest', hstart⟩
    rw [List.append_assoc] at hstart
    obtain ⟨name, after, hsplit, hname, hafter⟩ := List.map_eq_append_iff.1 hstart.symm
    obtain ⟨marks, rest, rfl, hmarks, -⟩ := List.map_eq_append_iff.1 hafter
    have hkept : marks = [':', '/', '/'] := by
      have hlength : marks.length = 3 := by rw [← List.length_map, hmarks]; rfl
      obtain ⟨c, d, e, rfl⟩ := List.length_eq_three.1 hlength
      obtain ⟨hc, hde⟩ := List.cons.inj hmarks
      obtain ⟨hd, he⟩ := List.cons.inj hde
      rw [Text.eq_of_toLower_eq hc (by decide), Text.eq_of_toLower_eq hd (by decide),
        Text.eq_of_toLower_eq (List.cons.inj he).1 (by decide)]
    exact ⟨name, rest, hname, by rw [hsplit, hkept]; rfl⟩
  rcases hasScheme_iff.1 h with h | h
  · obtain ⟨name, rest, hname, htext⟩ := hspelled Url.http h
    exact ⟨name, rest, Or.inl hname, htext⟩
  · obtain ⟨name, rest, hname, htext⟩ := hspelled Url.https h
    exact ⟨name, rest, Or.inr hname, htext⟩

/-- The scheme of a target with one in front is read as the name of a host. -/
theorem IsWeb.resolve_https {target : List Char} (h : IsWeb target) {u : Url}
    (hu : Url.resolve none (Text.trim target) = .ok u) :
    ∃ v, Url.resolve none ("https://".toList ++ Text.trim target) = .ok v
      ∧ v.scheme = Url.https ∧ v.authority = some { host := .name u.scheme } := by
  obtain ⟨name, rest, hlower, htext⟩ := h.exists_scheme
  have hsmall : ∀ c ∈ name.map Char.toLower, c.isAlpha = true := by
    have hboth : (Url.http ++ Url.https).all Char.isAlpha = true := by decide
    intro c hc
    refine List.all_eq_true.1 hboth c (List.mem_append.2 ?_)
    rcases hlower with hlower | hlower
    · exact Or.inl (hlower ▸ hc)
    · exact Or.inr (hlower ▸ hc)
  have hletters : ∀ c ∈ name, c.isAlpha = true := by
    intro c hc
    rw [← Char.isAlpha_toLower_eq_isAlpha]
    exact hsmall _ (List.mem_map_of_mem hc)
  have hsome : name.map Char.toLower ≠ [] := by
    rcases hlower with hlower | hlower <;> rw [hlower] <;> decide
  have hname : name ≠ [] := fun hnil => hsome (by rw [hnil]; rfl)
  have hhost : Url.Host.ofText name = .ok (.name (name.map Char.toLower)) := by
    refine Url.ofText_of_letters hletters rfl hsome ?_ ?_
    · rcases hlower with hlower | hlower <;> rw [hlower] <;> decide +kernel
    · rcases hlower with hlower | hlower <;> rw [hlower] <;> decide +kernel
  have hscheme : u.scheme = name.map Char.toLower := by
    obtain ⟨first, others, rfl⟩ := List.exists_cons_of_ne_nil hname
    obtain ⟨hfirst, hothers⟩ := List.forall_mem_cons.1 hletters
    have hkept : (first :: others).filter (· ∉ ['\t', '\n', '\r']) = first :: others := by
      refine List.filter_eq_self.2 fun c hc => decide_eq_true (Url.not_mem_of_visible ?_)
      exact Url.visible_of_isSchemeChar (Url.isSchemeChar_of_isAlpha (hletters c hc))
    have hspells : Url.Spells ([] ++ (first :: others) ++ ':' :: '/' :: '/' :: rest)
        ((first :: others).map Char.toLower) :=
      .mk _ (by simp) hkept hfirst fun c hc => Url.isSchemeChar_of_isAlpha (hothers c hc)
    exact hspells.scheme_resolve (by rw [← hu, htext]; rfl)
  have hkind : Url.Kind.of Url.https = .web 443 := rfl
  obtain ⟨v, hv, hvscheme, hvauthority⟩ := Url.resolve_of_isHostText (Url.isHostText_of_letters hletters hname) hhost
    (by simpa using hsome) (Or.inr rfl) hkind none ('/' :: rest)
  refine ⟨v, ?_, hvscheme, by rw [hvauthority, hscheme]⟩
  rw [← hv, htext, List.append_assoc]
  rfl

/-! ### Targets as they are given -/

/-- The targets of a run before anything is done to them: those of the command line, then the lines of the file
that are neither blank nor comments. -/
inductive Given (folder : Folder) (settings : Settings) : List (List Char) → Prop where
  | noFile (h : settings.file = none) : Given folder settings (settings.targets.map String.toList)
  | withFile {path : String} {text : List Char} (h : settings.file = some path)
      (hread : folder.readText path.toList = .ok text) :
      Given folder settings (settings.targets.map String.toList
        ++ (linesFrom [] text).filter fun line => Text.trim line ≠ [] ∧ (Text.trim line).head? ≠ some '#')

theorem withScheme_trim (target : List Char) : withScheme (Text.trim target) = withScheme target := by
  rw [withScheme, withScheme, Text.trim_trim]

theorem ofText_eq (text : List Char) :
    ofText text = ((linesFrom [] text).filter fun line =>
      Text.trim line ≠ [] ∧ (Text.trim line).head? ≠ some '#').map Text.trim := by
  rw [ofText, List.filter_map]
  refine congrArg _ (List.filter_congr fun line _ => ?_)
  rw [Function.comp_apply, Bool.eq_iff_iff]
  simp

theorem exists_given {folder : Folder} {settings : Settings} {strings : List String}
    (h : load folder settings = .ok strings) :
    ∃ given, Given folder settings given ∧ strings = given.map fun target => String.ofList (withScheme target) := by
  cases hfile : settings.file with
  | none =>
      rw [load_of_no_file hfile] at h
      refine ⟨_, .noFile hfile, ?_⟩
      rw [List.map_map]
      exact (Except.ok.inj h).symm
  | some path =>
      cases hread : folder.readText path.toList with
      | error e => simp [load, hfile, hread, Except.map, bind, Except.bind] at h
      | ok text =>
          rw [load_of_file hfile hread] at h
          refine ⟨_, .withFile hfile hread, ?_⟩
          rw [← Except.ok.inj h, ofText_eq]
          simp only [List.map_append, List.map_map]
          refine congrArg _ (List.map_congr_left fun line _ => ?_)
          rw [Function.comp_apply, withScheme_trim]

/-- A target of the web is loaded as the URL that it is if its scheme is written in small letters. If not, what is
loaded is another URL: one of the host that the scheme names. The two are the same only if the target is itself a URL
of the scheme `https` and the host of that name. -/
theorem parse_load {folder : Folder} {settings : Settings} {strings : List String}
    (h : load folder settings = .ok strings) :
    ∃ given, Given folder settings given ∧ List.Forall₂ (fun target s =>
      (s.toList = if hasScheme (Text.trim target) then Text.trim target else "https://".toList ++ Text.trim target)
      ∧ ∀ u, IsWeb target → Url.resolve none (Text.trim target) = .ok u →
        (hasScheme (Text.trim target) = true → Url.parse s = .ok u)
        ∧ (hasScheme (Text.trim target) = false → ∃ v, Url.parse s = .ok v ∧ v.scheme = Url.https
            ∧ v.authority = some { host := .name u.scheme })
        ∧ ((u.scheme = Url.https → u.authority ≠ some { host := .name Url.https }) →
            (Url.parse s = .ok u ↔ hasScheme (Text.trim target) = true))) given strings := by
  obtain ⟨given, hgiven, rfl⟩ := exists_given h
  refine ⟨given, hgiven, ?_⟩
  rw [List.forall₂_map_right_iff]
  refine List.forall₂_same.2 fun target _ => ?_
  have htext : (String.ofList (withScheme target)).toList
      = if hasScheme (Text.trim target) then Text.trim target else "https://".toList ++ Text.trim target := by
    rw [String.toList_ofList]
    rfl
  refine ⟨htext, fun u hweb hu => ?_⟩
  have hparse : Url.parse (String.ofList (withScheme target)) = Url.resolve none (if hasScheme (Text.trim target)
      then Text.trim target else "https://".toList ++ Text.trim target) := by
    rw [Url.parse, htext]
  rw [hparse]
  cases hscheme : hasScheme (Text.trim target) with
  | true => simp [hu]
  | false =>
      obtain ⟨v, hv, hvscheme, hvauthority⟩ := hweb.resolve_https hu
      refine ⟨fun h => absurd h Bool.false_ne_true, fun _ => ⟨v, hv, hvscheme, hvauthority⟩,
        fun hother => iff_of_false (fun hsame => ?_) Bool.false_ne_true⟩
      obtain rfl : v = u := Except.ok.inj (hv.symm.trans hsame)
      refine hother hvscheme ?_
      rw [hvauthority, hvscheme]

/-- The target `HTTP://[::1]/a/b`. -/
def capitalTarget : List Char :=
  ['H', 'T', 'T', 'P', ':', '/', '/', '[', ':', ':', '1', ']', '/', 'a', '/', 'b']

theorem isWeb_capitalTarget : IsWeb capitalTarget := by
  rw [IsWeb]
  decide +kernel

theorem resolve_capitalTarget : Url.resolve none (Text.trim capitalTarget) = .ok Gate.loopbackPage := by
  decide +kernel

theorem load_capitalTarget :
    load { current := [] } { targets := [String.ofList capitalTarget] }
      = .ok [String.ofList ("https://".toList ++ capitalTarget)] := by
  simp only [load, List.map_cons, String.toList_ofList]
  rfl

theorem parse_load_capital :
    hasScheme (Text.trim capitalTarget) = false
      ∧ ∃ s, load { current := [] } { targets := [String.ofList capitalTarget] } = .ok [s]
        ∧ ∃ v, Url.parse s = .ok v ∧ v.scheme = Url.https ∧ v.authority = some { host := .name Url.http } := by
  have hscheme : hasScheme (Text.trim capitalTarget) = false := by decide +kernel
  obtain ⟨given, hgiven, hloaded⟩ := parse_load load_capitalTarget
  cases hgiven with
  | withFile hfile => cases hfile
  | noFile =>
      have htarget := (List.forall₂_cons.1 hloaded).1.2 Gate.loopbackPage
      rw [String.toList_ofList] at htarget
      exact ⟨hscheme, _, load_capitalTarget, (htarget isWeb_capitalTarget resolve_capitalTarget).2.1 hscheme⟩

/-- What is loaded for `HTTP://[::1]/a/b` is another URL. -/
theorem parse_load_ne :
    ∃ u s, IsWeb capitalTarget ∧ Url.resolve none (Text.trim capitalTarget) = .ok u
      ∧ load { current := [] } { targets := [String.ofList capitalTarget] } = .ok [s] ∧ Url.parse s ≠ .ok u := by
  refine ⟨Gate.loopbackPage, _, isWeb_capitalTarget, resolve_capitalTarget, load_capitalTarget, ?_⟩
  rw [Url.parse, String.toList_ofList]
  decide +kernel

end Targets

end LinkSurvey
