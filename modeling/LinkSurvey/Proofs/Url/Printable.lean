import LinkSurvey.Proofs.Url.Text

/-!
The text of a web-like URL is printable ASCII without spaces. Every component has its own set of characters
that are encoded, but all of these sets hold the space and the control characters, what is encoded is
written with a `%` and two digits, and no host holds anything else.
-/

namespace LinkSurvey.Url

/-- From `!` to `~`. -/
def IsPrintable (c : Char) : Prop :=
  32 < c.toNat ∧ c.toNat < 127

instance (c : Char) : Decidable (IsPrintable c) :=
  inferInstanceAs (Decidable (_ ∧ _))

/-- A set of encoded characters that leaves out no character that cannot be seen. -/
def Hides (encoded : Char → Bool) : Prop :=
  ∀ c, inControls c = true ∨ c = ' ' → encoded c = true

theorem hides_inFragment : Hides inFragment := by
  rintro c (h | rfl)
  · rw [inFragment, h, Bool.true_or]
  · rfl

theorem hides_inSpecialQuery : Hides inSpecialQuery := by
  rintro c (h | rfl)
  · rw [inSpecialQuery, inQuery, h, Bool.true_or, Bool.true_or]
  · rfl

theorem Hides.mono {smaller larger : Char → Bool} (h : Hides smaller)
    (hle : ∀ c, smaller c = true → larger c = true) : Hides larger :=
  fun c hc => hle c (h c hc)

theorem hides_inPath : Hides inPath :=
  hides_inFragment.mono fun c hc => by rw [inPath, hc, Bool.true_or]

theorem hides_inUserinfo : Hides inUserinfo :=
  hides_inPath.mono fun c hc => by rw [inUserinfo, hc, Bool.true_or]

theorem Hides.isPrintable {encoded : Char → Bool} (h : Hides encoded) {c : Char}
    (hc : c.toNat < 128 ∧ encoded c = false) : IsPrintable c := by
  have hshown : ¬(inControls c = true ∨ c = ' ') := by
    intro hidden
    rw [h c hidden] at hc
    exact absurd hc.2 (by decide)
  simp only [inControls, Bool.or_eq_true, decide_eq_true_eq, beq_iff_eq, not_or] at hshown
  have hspace : c.toNat ≠ 32 := fun hn => hshown.2 (Char.toNat_inj.1 hn)
  exact ⟨by omega, by omega⟩

/-! ### Authorities -/

theorem isPrintable_of_isNameChar {c : Char} (h : DomainName.isNameChar c = true) : IsPrintable c := by
  obtain ⟨hascii, hallowed⟩ := (DomainName.isNameChar_iff c).1 h
  simp only [DomainName.isForbidden, Bool.or_eq_false_iff, decide_eq_false_iff_not, beq_eq_false_iff_ne]
    at hallowed
  exact ⟨by omega, by omega⟩

theorem isPrintable_of_mem {cs : List Char} (hcs : cs.all (IsPrintable ·) = true) {c : Char} (h : c ∈ cs) :
    IsPrintable c :=
  of_decide_eq_true (List.all_eq_true.1 hcs c h)

theorem isPrintable_of_mem_numerals {c : Char} (h : c ∈ ':' :: numerals) : IsPrintable c :=
  isPrintable_of_mem (by decide) h

theorem Host.IsNormal.isPrintable {host : Host} (h : host.IsNormal) {c : Char} (hc : c ∈ host.text) :
    IsPrintable c := by
  cases host with
  | name text => exact isPrintable_of_isNameChar (h.isNameChar_name c hc)
  | ipv4 address => exact isPrintable_of_isNameChar (isNameChar_ipv4Text address c hc)
  | ipv6 address =>
      rcases List.mem_append.1 hc with hc | hc
      · rcases List.mem_cons.1 hc with rfl | hc
        · decide
        · exact isPrintable_of_mem_numerals (mem_ipv6Text hc)
      · rw [List.mem_singleton.1 hc]
        decide

theorem Authority.IsNormal.isPrintable {a : Authority} {port : Nat} (h : a.IsNormal port) {c : Char}
    (hc : c ∈ a.text) : IsPrintable c := by
  rw [Authority.text, List.mem_append, List.mem_append] at hc
  rcases hc with (hc | hc) | hc
  · rw [Authority.credentials] at hc
    have huser : c ∈ a.user → IsPrintable c := fun hmem => hides_inUserinfo.isPrintable (h.user c hmem)
    split_ifs at hc with hnone hempty
    · cases hc
    · rw [List.append_nil, List.mem_append, List.mem_singleton] at hc
      rcases hc with hc | rfl
      · exact huser hc
      · decide
    · rw [List.mem_append, List.mem_append, List.mem_cons, List.mem_singleton] at hc
      rcases hc with (hc | rfl | hc) | rfl
      · exact huser hc
      · decide
      · exact hides_inUserinfo.isPrintable (h.password c hc)
      · decide
  · exact h.host.isPrintable hc
  · exact isPrintable_of_mem_numerals (mem_portText hc)

/-! ### Whole URLs -/

theorem isPrintable_withMark {encoded : Char → Bool} (hencoded : Hides encoded) {mark c : Char}
    (hmark : IsPrintable mark) {text : Option (List Char)} (htext : ∀ cs ∈ text, Encoded encoded cs)
    (hc : c ∈ withMark mark text) : IsPrintable c := by
  rcases mem_withMark hc with rfl | ⟨cs, hcs, hc⟩
  · exact hmark
  · exact hencoded.isPrintable (htext cs hcs c hc)

theorem IsNormal.isPrintable {u : Url} {port : Nat} (h : u.IsNormal port) {c : Char} (hc : c ∈ u.text) :
    IsPrintable c := by
  obtain ⟨a, hauthority, ha⟩ := h.authority
  obtain ⟨names, hpath, hnames⟩ := h.path
  have hschemes : webSchemes.flatten.all (IsPrintable ·) = true := by decide
  rw [text_eq hauthority hpath, afterScheme] at hc
  simp only [List.mem_append, List.mem_cons] at hc
  rcases hc with hc | rfl | rfl | rfl | hc | hc | hc | hc
  · exact isPrintable_of_mem hschemes (List.mem_flatten.2 ⟨u.scheme, mem_webSchemes h.kind, hc⟩)
  · decide
  · decide
  · decide
  · exact ha.isPrintable hc
  · obtain ⟨name, hname, hc⟩ := List.mem_flatMap.1 hc
    rcases List.mem_cons.1 hc with rfl | hc
    · decide
    · exact hides_inPath.isPrintable ((hnames.normal name hname).encoded c hc)
  · exact isPrintable_withMark hides_inSpecialQuery (by decide) h.query hc
  · exact isPrintable_withMark hides_inFragment (by decide) h.fragment hc

end LinkSurvey.Url
