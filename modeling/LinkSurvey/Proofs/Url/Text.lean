import LinkSurvey.Proofs.Text.Blank
import LinkSurvey.Proofs.Url.Web

/-!
Reading what is written. No component of a URL that was read holds the mark that starts the next one, so its
text is cut where it was put together, and tells its components; and with its scheme and two slashes it takes
nothing from a base. So to read the text is to read the host again, and the URL comes out if its host stands
for itself.
-/

namespace LinkSurvey.Url

/-- Visible characters are not taken out. -/
theorem not_mem_of_visible {c : Char} (h : 32 < c.toNat) : c ∉ ['\t', '\n', '\r'] := by
  intro hmem
  have hall : ['\t', '\n', '\r'].all (fun c => c.toNat ≤ 32) = true := by decide
  exact absurd (of_decide_eq_true (List.all_eq_true.1 hall c hmem)) (Nat.not_le.2 h)

theorem cleaned_of_visible {cs : List Char} (h : ∀ c ∈ cs, 32 < c.toNat) : cleaned cs = cs := by
  have hfront : ∀ {cs : List Char}, (∀ c ∈ cs, 32 < c.toNat) → cs.dropWhile (·.toNat ≤ 32) = cs := by
    intro cs hcs
    cases cs with
    | nil => rfl
    | cons c cs =>
        have hc := hcs c List.mem_cons_self
        exact List.dropWhile_cons_of_neg (by simpa using hc)
  have hback : ∀ c ∈ cs.reverse, 32 < c.toNat := fun c hc => h c (List.mem_reverse.1 hc)
  rw [cleaned, hfront h, hfront hback, List.reverse_reverse]
  refine List.filter_eq_self.2 fun c hc => ?_
  rw [List.contains_eq_mem, Bool.not_eq_true', decide_eq_false_iff_not]
  exact not_mem_of_visible (h c hc)

/-- What is dropped in front of visible characters would have been taken out anyway. -/
theorem filter_dropWhile {cs : List Char} (h : ∀ c ∈ cs.filter (· ∉ ['\t', '\n', '\r']), 32 < c.toNat) :
    (cs.dropWhile (·.toNat ≤ 32)).filter (· ∉ ['\t', '\n', '\r']) = cs.filter (· ∉ ['\t', '\n', '\r']) := by
  have hdropped : (cs.takeWhile (·.toNat ≤ 32)).filter (· ∉ ['\t', '\n', '\r']) = [] := by
    refine List.filter_eq_nil_iff.2 fun c hc hkept => ?_
    have hsmall : c.toNat ≤ 32 := of_decide_eq_true (List.all_eq_true.1 List.all_takeWhile c hc)
    have hlarge := h c (List.mem_filter.2 ⟨(List.takeWhile_prefix _).subset hc, hkept⟩)
    omega
  calc (cs.dropWhile (·.toNat ≤ 32)).filter (· ∉ ['\t', '\n', '\r'])
      = (cs.takeWhile (·.toNat ≤ 32) ++ cs.dropWhile (·.toNat ≤ 32)).filter (· ∉ ['\t', '\n', '\r']) := by
        rw [List.filter_append, hdropped, List.nil_append]
    _ = cs.filter (· ∉ ['\t', '\n', '\r']) := by rw [List.takeWhile_append_dropWhile]

/-- Nothing is taken out at the ends of what stands around a visible character but at the ends of the whole. -/
theorem cleaned_append_cons {c : Char} (hc : 32 < c.toNat) (before after : List Char) :
    ∃ rest, cleaned (before ++ c :: after)
      = (before.dropWhile (·.toNat ≤ 32)).filter (· ∉ ['\t', '\n', '\r']) ++ c :: rest := by
  have hkept : ∀ d, (!(['\t', '\n', '\r'].contains d)) = decide (d ∉ ['\t', '\n', '\r']) := by
    intro d
    rw [List.contains_eq_mem, decide_not]
  have hends : decide (c.toNat ≤ 32) = false := decide_eq_false (Nat.not_le.2 hc)
  have hinside : decide (c ∉ ['\t', '\n', '\r']) = true := decide_eq_true (not_mem_of_visible hc)
  refine ⟨((after.reverse.dropWhile (·.toNat ≤ 32)).reverse).filter (· ∉ ['\t', '\n', '\r']), ?_⟩
  simp only [cleaned, hkept]
  rw [Text.dropWhile_append_cons hends, List.reverse_append, List.reverse_cons, List.append_assoc,
    List.singleton_append, Text.dropWhile_append_cons hends, List.reverse_append, List.reverse_cons,
    List.reverse_reverse, List.append_assoc, List.singleton_append, List.filter_append]
  exact congrArg _ (List.filter_cons_of_pos hinside)

/-- Visible characters in front of a text stay there. -/
theorem exists_cleaned_append {front : List Char} (hfront : ∀ c ∈ front, 32 < c.toNat) (hne : front ≠ [])
    (rest : List Char) : ∃ after, cleaned (front ++ rest) = front ++ after := by
  obtain ⟨before, c, rfl⟩ := (List.eq_nil_or_concat' front).resolve_left hne
  have hbefore : ∀ d ∈ before, 32 < d.toNat := fun d hd => hfront d (List.mem_append_left [c] hd)
  have hkept : before.filter (· ∉ ['\t', '\n', '\r']) = before :=
    List.filter_eq_self.2 fun d hd => decide_eq_true (not_mem_of_visible (hbefore d hd))
  obtain ⟨after, hcleaned⟩ := cleaned_append_cons (hfront c (by simp)) before rest
  refine ⟨after, ?_⟩
  rw [List.append_assoc, List.singleton_append, hcleaned, filter_dropWhile (by rwa [hkept]), hkept,
    List.append_assoc, List.singleton_append]

/-- The schemes of web-like URLs. -/
def webSchemes : List (List Char) :=
  [http, https, ['w', 's'], ['w', 's', 's'], ['f', 't', 'p']]

theorem mem_webSchemes {scheme : List Char} {port : Nat} (h : Kind.of scheme = .web port) :
    scheme ∈ webSchemes := by
  rw [Kind.of] at h
  split_ifs at h with hhttp hhttps hws hwss hftp hfile
  · rw [hhttp]
    decide
  · rw [hhttps]
    decide
  · rw [hws]
    decide
  · rw [hwss]
    decide
  · rw [hftp]
    decide

theorem visible_of_mem_webSchemes {scheme : List Char} (h : scheme ∈ webSchemes) :
    ∀ c ∈ scheme, 32 < c.toNat := by
  have hall : webSchemes.all (fun s => s.all fun c => 32 < c.toNat) = true := by decide
  intro c hc
  exact of_decide_eq_true (List.all_eq_true.1 (List.all_eq_true.1 hall scheme h) c hc)

theorem splitScheme_append {scheme : List Char} (h : scheme ∈ webSchemes) (rest : List Char) :
    splitScheme (scheme ++ ':' :: rest) = some (scheme, rest) := by
  have hall : ∀ s ∈ webSchemes,
      s.all isSchemeChar = true ∧ s.head?.any Char.isAlpha = true ∧ s.map Char.toLower = s := by
    decide
  obtain ⟨hname, halpha, hlower⟩ := hall scheme h
  have hchars : ∀ c ∈ scheme, isSchemeChar c = true := List.all_eq_true.1 hname
  have hcolon : ∀ c ∈ (':' :: rest).head?, isSchemeChar c = false := by simp [isSchemeChar]
  rw [splitScheme, span_append hchars hcolon]
  simp only [halpha, hlower, if_true]

theorem visible_of_inFragment {c : Char} (h : inFragment c = false) : 32 < c.toNat := by
  simp only [inFragment, inControls, Bool.or_eq_false_iff, decide_eq_false_iff_not, List.contains_eq_mem,
    List.mem_cons, not_or] at h
  have hspace : c.toNat ≠ 32 := fun hc => h.2.1 (Char.toNat_inj.1 hc)
  omega

theorem visible_of_inSpecialQuery {c : Char} (h : inSpecialQuery c = false) : 32 < c.toNat := by
  simp only [inSpecialQuery, inQuery, inControls, Bool.or_eq_false_iff, decide_eq_false_iff_not,
    List.contains_eq_mem, List.mem_cons, not_or] at h
  have hspace : c.toNat ≠ 32 := fun hc => h.1.2.1 (Char.toNat_inj.1 hc)
  omega

theorem inFragment_of_inPath {c : Char} (h : inPath c = false) : inFragment c = false :=
  (Bool.or_eq_false_iff.1 h).1

/-- A path is written with slashes and what its segments hold. -/
theorem mem_segmentsText {names : List Segment} (h : IsNormalPath names) {c : Char}
    (hc : c ∈ segmentsText names) : c = '/' ∨ inPath c = false := by
  obtain ⟨name, hname, hc⟩ := List.mem_flatMap.1 hc
  rcases List.mem_cons.1 hc with hc | hc
  · exact Or.inl hc
  · exact Or.inr ((h.normal name hname).encoded c hc).2

theorem mem_withMark {mark c : Char} {text : Option (List Char)} (h : c ∈ withMark mark text) :
    c = mark ∨ ∃ cs ∈ text, c ∈ cs := by
  cases text with
  | none => cases h
  | some cs => exact (List.mem_cons.1 h).imp id fun hc => ⟨cs, rfl, hc⟩

theorem head?_withMark {mark c : Char} {text : Option (List Char)} (h : c ∈ (withMark mark text).head?) :
    c = mark := by
  cases text with
  | none => cases h
  | some cs => exact (Option.some.inj h).symm

theorem readQuery_withMark {port : Nat} {query fragment : Option (List Char)}
    (hquery : ∀ q ∈ query, Encoded inSpecialQuery q) (hfragment : ∀ f ∈ fragment, Encoded inFragment f) :
    readQuery (.web port) (withMark '?' query ++ withMark '#' fragment) = (query, fragment) := by
  have hbefore : ∀ c ∈ withMark '?' query, (c != '#') = true := by
    intro c hc
    rw [bne_iff_ne]
    rintro rfl
    rcases mem_withMark hc with hmark | ⟨q, hq, hc⟩
    · exact absurd hmark (by decide)
    · exact (hquery q hq).not_mem (by decide) hc
  have hafter : ∀ c ∈ (withMark '#' fragment).head?, (c != '#') = false := by
    intro c hc
    rw [head?_withMark hc]
    rfl
  rw [readQuery, span_append hbefore hafter]
  cases query with
  | none =>
      cases fragment with
      | none => rfl
      | some f => simp [withMark, percentEncode_of_encoded (hfragment f rfl)]
  | some q =>
      have hspecial : (Kind.web port).isSpecial = true := rfl
      cases fragment with
      | none => simp [withMark, hspecial, percentEncode_of_encoded (hquery q rfl)]
      | some f =>
          simp [withMark, hspecial, percentEncode_of_encoded (hquery q rfl),
            percentEncode_of_encoded (hfragment f rfl)]

theorem splitPath_segmentsText {names : List Segment} (h : IsNormalPath names)
    (query fragment : Option (List Char)) :
    splitPath (segmentsText names ++ (withMark '?' query ++ withMark '#' fragment)) =
      (segmentsText names, withMark '?' query ++ withMark '#' fragment) := by
  refine span_append ?_ ?_
  · intro c hc
    rcases mem_segmentsText h hc with rfl | hc
    · decide
    · rw [Bool.and_eq_true, bne_iff_ne, bne_iff_ne]
      refine ⟨?_, ?_⟩
      · rintro rfl
        exact absurd hc (by decide)
      · rintro rfl
        exact absurd hc (by decide)
  · intro c hc
    cases query with
    | none =>
        rw [head?_withMark hc]
        rfl
    | some q =>
        rw [← Option.some.inj hc]
        rfl

/-- The text after the scheme and its two slashes. -/
def afterScheme (a : Authority) (names : List Segment) (query fragment : Option (List Char)) : List Char :=
  a.text ++ (segmentsText names ++ (withMark '?' query ++ withMark '#' fragment))

theorem text_eq {u : Url} {a : Authority} {names : List Segment} (hauthority : u.authority = some a)
    (hpath : u.path = .segments names) :
    u.text = u.scheme ++ ':' :: '/' :: '/' :: afterScheme a names u.query u.fragment := by
  simp [text, beforePath, hauthority, hpath, Path.text, afterScheme]

theorem endsAuthority_of_isHostChar {c : Char} {port : Nat} (h : isHostChar c = true ∨ c = '@') :
    endsAuthority (.web port) c = false := by
  rcases h with h | rfl
  · simp only [isHostChar, Bool.and_eq_true, Bool.not_eq_true', List.contains_eq_mem, List.mem_cons,
      decide_eq_false_iff_not, not_or] at h
    simp [endsAuthority, isSlash, h]
  · rfl

/-- The authority ends where the path starts. -/
theorem span_afterScheme {a : Authority} {port : Nat} (ha : a.IsNormal port) {names : List Segment}
    (hnames : IsNormalPath names) (query fragment : Option (List Char)) :
    (afterScheme a names query fragment).span (fun c => !endsAuthority (.web port) c)
      = (a.text, segmentsText names ++ (withMark '?' query ++ withMark '#' fragment)) := by
  refine span_append ?_ ?_
  · intro c hc
    rw [endsAuthority_of_isHostChar (ha.mem_text hc)]
    rfl
  · obtain ⟨s, names, rfl⟩ := List.exists_cons_of_ne_nil hnames.ne_nil
    intro c hc
    rw [← Option.some.inj hc]
    rfl

/-- Reading what follows the scheme is reading the host. -/
theorem afterSlashes_afterScheme {u : Url} {port : Nat} (h : u.IsNormal port) {a : Authority}
    {names : List Segment} (hpath : u.path = .segments names) (ha : a.IsNormal port)
    (hnames : IsNormalPath names) :
    afterSlashes u.scheme (afterScheme a names u.query u.fragment)
      = (Host.ofText a.host.text).map fun host => { u with authority := some { a with host } } := by
  have hkind : Kind.of u.scheme = .web port := h.kind
  have hwhole : ∀ host : Host, withQuery ⟨u.scheme, some { a with host }, .segments names, none, none⟩
      (withMark '?' u.query ++ withMark '#' u.fragment) = { u with authority := some { a with host } } := by
    intro host
    have hread : readQuery (Kind.of u.scheme) (withMark '?' u.query ++ withMark '#' u.fragment)
        = (u.query, u.fragment) := by
      rw [hkind]
      exact readQuery_withMark h.query h.fragment
    show Url.mk u.scheme (some { a with host }) (.segments names)
      (readQuery (Kind.of u.scheme) (withMark '?' u.query ++ withMark '#' u.fragment)).1
      (readQuery (Kind.of u.scheme) (withMark '?' u.query ++ withMark '#' u.fragment)).2 = _
    rw [hread, ← hpath]
  simp only [afterSlashes, hkind, span_afterScheme ha hnames, ha.readAuthority_text]
  cases Host.ofText a.host.text with
  | error e => simp [bind, Except.bind, Except.map]
  | ok host =>
      simp only [splitPath_segmentsText hnames, bind, Except.bind, pure, Except.pure, Except.map,
        List.nil_append, readPathStart_segmentsText hnames, hwhole]

theorem visible_text {u : Url} {port : Nat} (h : u.IsNormal port) : ∀ c ∈ u.text, 32 < c.toNat := by
  obtain ⟨a, hauthority, ha⟩ := h.authority
  obtain ⟨names, hpath, hnames⟩ := h.path
  have hslash : 32 < '/'.toNat := by decide
  intro c hc
  rw [text_eq hauthority hpath, afterScheme] at hc
  simp only [List.mem_append, List.mem_cons] at hc
  rcases hc with hc | rfl | rfl | rfl | hc | hc | hc | hc
  · exact visible_of_mem_webSchemes (mem_webSchemes h.kind) c hc
  · decide
  · exact hslash
  · exact hslash
  · rcases ha.mem_text hc with hc | rfl
    · rw [isHostChar, Bool.and_eq_true] at hc
      exact of_decide_eq_true hc.1
    · decide
  · rcases mem_segmentsText hnames hc with rfl | hc
    · exact hslash
    · exact visible_of_inFragment (inFragment_of_inPath hc)
  · rcases mem_withMark hc with rfl | ⟨q, hq, hc⟩
    · decide
    · exact visible_of_inSpecialQuery (h.query q hq c hc).2
  · rcases mem_withMark hc with rfl | ⟨f, hf, hc⟩
    · decide
    · exact visible_of_inFragment (h.fragment f hf c hc).2

/-- With its two slashes a text is not relative to a base of its own scheme. -/
theorem absoluteUrl_slashes {scheme : List Char} {port : Nat} (h : Kind.of scheme = .web port) (base : Option Url)
    (rest : List Char) :
    absoluteUrl base scheme ('/' :: '/' :: rest) = afterSlashes scheme (rest.dropWhile anySlash) := by
  have hslashes : ¬(('/' :: '/' :: rest).takeWhile anySlash).length < 2 := by
    simp [anySlash]
  have hapart : base.filter (fun b => b.scheme == scheme
      && decide ((('/' :: '/' :: rest).takeWhile anySlash).length < 2)) = none := by
    rw [decide_eq_false hslashes]
    simp
  simp only [absoluteUrl, h, hapart]
  rw [List.dropWhile_cons_of_pos (by decide), List.dropWhile_cons_of_pos (by decide)]

/-- A text with a scheme of the web and two slashes is read without a look at the base. -/
theorem exists_resolve_slashes {scheme : List Char} {port : Nat} (h : Kind.of scheme = .web port)
    (rest : List Char) :
    ∃ after, ∀ base, resolve base (scheme ++ ':' :: '/' :: '/' :: rest) = afterSlashes scheme after := by
  have hscheme := mem_webSchemes h
  have hvisible : ∀ c ∈ scheme ++ [':', '/', '/'], 32 < c.toNat := by
    intro c hc
    rcases List.mem_append.1 hc with hc | hc
    · exact visible_of_mem_webSchemes hscheme c hc
    · have hall : [':', '/', '/'].all (fun c => decide (32 < c.toNat)) = true := by decide
      exact of_decide_eq_true (List.all_eq_true.1 hall c hc)
  obtain ⟨after, hcleaned⟩ := exists_cleaned_append hvisible (by simp) rest
  rw [List.append_assoc, List.append_assoc] at hcleaned
  refine ⟨after.dropWhile anySlash, fun base => ?_⟩
  have hread : cleaned (scheme ++ ':' :: '/' :: '/' :: rest) = scheme ++ ':' :: '/' :: '/' :: after := hcleaned
  simp only [resolve, hread, splitScheme_append hscheme]
  exact absoluteUrl_slashes h base after

/-- To read the text of a URL, seen from any base, is to read its host again. -/
theorem IsNormal.resolve_text {u : Url} {port : Nat} (h : u.IsNormal port) {a : Authority}
    (hauthority : u.authority = some a) (base : Option Url) :
    resolve base u.text
      = (Host.ofText a.host.text).map fun host => { u with authority := some { a with host } } := by
  obtain ⟨b, hb, ha⟩ := h.authority
  cases hauthority.symm.trans hb
  obtain ⟨names, hpath, hnames⟩ := h.path
  have hkind : Kind.of u.scheme = .web port := h.kind
  obtain ⟨c, cs, hcs⟩ := List.exists_cons_of_ne_nil ha.text_ne_nil
  have hhead : anySlash c = false := by
    have hmem : c ∈ a.text := by
      rw [hcs]
      exact List.mem_cons_self
    have hc : endsAuthority (.web port) c = false := endsAuthority_of_isHostChar (ha.mem_text hmem)
    simp only [endsAuthority, isSlash, Kind.isSpecial, Bool.and_true, Bool.or_eq_false_iff] at hc
    simp [anySlash, hc]
  have hdrop : (afterScheme a names u.query u.fragment).dropWhile anySlash
      = afterScheme a names u.query u.fragment := by
    rw [afterScheme, hcs, List.cons_append, List.dropWhile_cons_of_neg (by simp [hhead])]
  simp only [resolve, cleaned_of_visible (visible_text h)]
  rw [text_eq hauthority hpath, splitScheme_append (mem_webSchemes h.kind)]
  dsimp only
  rw [absoluteUrl_slashes hkind, hdrop]
  exact afterSlashes_afterScheme h hpath ha hnames

/-- A URL whose host stands for itself. -/
def StandsForItself (u : Url) : Prop :=
  ∀ a ∈ u.authority, a.host.StandsForItself

/-- Such a URL is read from its text, whatever the base. -/
theorem IsNormal.resolve_text_self {u : Url} {port : Nat} (h : u.IsNormal port) (hself : u.StandsForItself)
    (base : Option Url) : resolve base u.text = .ok u := by
  obtain ⟨a, hauthority, ha⟩ := h.authority
  rw [h.resolve_text hauthority base, ha.host.ofText_text (hself a hauthority), Except.map]
  cases u
  cases hauthority
  rfl

/-- Whatever the text of a URL is read as is such a URL. -/
theorem IsNormal.of_resolve_text {u v : Url} {port : Nat} (h : u.IsNormal port) {base : Option Url}
    (hread : resolve base u.text = .ok v) : v.IsNormal port ∧ v.StandsForItself := by
  obtain ⟨a, hauthority, ha⟩ := h.authority
  rw [h.resolve_text hauthority base] at hread
  cases hhost : Host.ofText a.host.text with
  | error e =>
      rw [hhost] at hread
      cases hread
  | ok host =>
      rw [hhost] at hread
      cases hread
      refine ⟨⟨h.kind, ⟨{ a with host }, rfl, ?_⟩, h.path, h.query, h.fragment⟩, fun b hb => ?_⟩
      · exact ⟨ha.user, ha.password, isNormal_of_ofText hhost, ha.port⟩
      · cases hb
        exact ha.host.standsForItself_of_ofText hhost

/-- What follows the scheme says which parts it was written from. -/
theorem afterScheme_injective {port : Nat} {a b : Authority} (ha : a.IsNormal port) (hb : b.IsNormal port)
    {names names' : List Segment} (hnames : IsNormalPath names) (hnames' : IsNormalPath names')
    {query query' fragment fragment' : Option (List Char)}
    (hquery : ∀ q ∈ query, Encoded inSpecialQuery q) (hfragment : ∀ f ∈ fragment, Encoded inFragment f)
    (hquery' : ∀ q ∈ query', Encoded inSpecialQuery q) (hfragment' : ∀ f ∈ fragment', Encoded inFragment f)
    (h : afterScheme a names query fragment = afterScheme b names' query' fragment') :
    a = b ∧ names = names' ∧ query = query' ∧ fragment = fragment' := by
  have hspan := span_afterScheme ha hnames query fragment
  rw [h, span_afterScheme hb hnames'] at hspan
  obtain ⟨htext, hrest⟩ := Prod.mk.inj hspan
  have hpaths := splitPath_segmentsText hnames query fragment
  rw [← hrest, splitPath_segmentsText hnames'] at hpaths
  obtain ⟨hsegments, hmarks⟩ := Prod.mk.inj hpaths
  have hread : readPathStart (.web port) (segmentsText names) = names := readPathStart_segmentsText hnames
  rw [← hsegments, readPathStart_segmentsText hnames'] at hread
  have hquestion : readQuery (.web port) (withMark '?' query ++ withMark '#' fragment) = (query, fragment) :=
    readQuery_withMark hquery hfragment
  rw [← hmarks, readQuery_withMark hquery' hfragment'] at hquestion
  obtain ⟨hqueries, hfragments⟩ := Prod.mk.inj hquestion
  exact ⟨(hb.text_injective ha htext).symm, hread.symm, hqueries.symm, hfragments.symm⟩

/-- The text of a URL that was read is that of no other such URL. -/
theorem IsNormal.text_injective {u v : Url} {port other : Nat} (hu : u.IsNormal port) (hv : v.IsNormal other)
    (h : u.text = v.text) : u = v := by
  obtain ⟨a, hauthority, ha⟩ := hu.authority
  obtain ⟨names, hpath, hnames⟩ := hu.path
  obtain ⟨b, hauthority', hb⟩ := hv.authority
  obtain ⟨names', hpath', hnames'⟩ := hv.path
  have hsplit := splitScheme_append (mem_webSchemes hu.kind) ('/' :: '/' :: afterScheme a names u.query u.fragment)
  rw [← text_eq hauthority hpath, h, text_eq hauthority' hpath', splitScheme_append (mem_webSchemes hv.kind)]
    at hsplit
  obtain ⟨hscheme, hafter⟩ := Prod.mk.inj (Option.some.inj hsplit)
  have hport : other = port := by
    have hkind : v.kind = u.kind := congrArg Kind.of hscheme
    rw [hu.kind, hv.kind] at hkind
    exact Kind.web.inj hkind
  subst hport
  obtain ⟨rfl, rfl, hqueries, hfragments⟩ := afterScheme_injective hb ha hnames' hnames hv.query hv.fragment hu.query
    hu.fragment (List.cons.inj (List.cons.inj hafter).2).2
  cases u
  cases v
  cases hauthority
  cases hauthority'
  cases hpath
  cases hpath'
  cases hscheme
  cases hqueries
  cases hfragments
  rfl

end LinkSurvey.Url
