import LinkSurvey.Proofs.Url.Text

/-!
URLs whose host is given by name. A text of characters that mean nothing in an authority is read as a host, with or
without a colon after it, and the slash that follows starts the path.
-/

namespace LinkSurvey.Url

/-- A text that is all host: nothing in it cuts an authority, ends it or is taken out of it. -/
structure IsHostText (text : List Char) : Prop where
  ne_nil : text ≠ []
  isHostChar : ∀ c ∈ text, isHostChar c = true
  not_mem_colon : ':' ∉ text
  not_mem_bracket : '[' ∉ text

namespace IsHostText

variable {text : List Char} (h : IsHostText text)
include h

theorem visible {c : Char} (hc : c ∈ text) : 32 < c.toNat := by
  have hchar := h.isHostChar c hc
  rw [Url.isHostChar, Bool.and_eq_true, decide_eq_true_eq] at hchar
  exact hchar.1

theorem not_mem_at : '@' ∉ text :=
  fun hmem => absurd (h.isHostChar '@' hmem) (by decide)

theorem anySlash {c : Char} (hc : c ∈ text) : anySlash c = false := by
  rw [Url.anySlash, Bool.or_eq_false_iff, beq_eq_false_iff_ne, beq_eq_false_iff_ne]
  constructor
  · rintro rfl
    exact absurd (h.isHostChar '/' hc) (by decide)
  · rintro rfl
    exact absurd (h.isHostChar '\\' hc) (by decide)

end IsHostText

variable {scheme text tail : List Char} {port : Nat} {host : Host} (htext : IsHostText text)
  (hhost : Host.ofText text = .ok host) (hname : host ≠ .name []) (htail : tail = [] ∨ tail = [':'])
include htext hhost hname htail

/-- No digits are no port. -/
theorem readAuthority_of_isHostText (last : Bool) :
    readAuthority (.web port) (text ++ tail) last = .ok ({ host }, []) := by
  have hat : '@' ∉ text ++ tail := by
    rw [List.mem_append]
    refine not_or.2 ⟨htext.not_mem_at, ?_⟩
    rcases htail with rfl | rfl <;> decide
  have hplain : ∀ c ∈ text, c ≠ ':' ∧ c ≠ '[' := fun c hc =>
    ⟨fun h => htext.not_mem_colon (h ▸ hc), fun h => htext.not_mem_bracket (h ▸ hc)⟩
  have hport : splitPort false (text ++ tail) = (text, tail) := by
    refine splitPort_append hplain ?_
    rcases htail with rfl | rfl <;> simp
  have hread : readHost (.web port) text = .ok host := by
    have hspecial : (Kind.web port).isSpecial = true := rfl
    rw [readHost, if_pos hspecial, if_neg (by simpa using htext.ne_nil), hhost]
  have hcredentials : readCredentials [] = ([], []) := rfl
  have hdigits : (tail.drop 1).span (· != '\\') = ([], []) := by
    rcases htail with rfl | rfl <;> rfl
  simp only [readAuthority, splitLastAt_of_not_mem hat, Option.getD_none, hport, hread, hcredentials, hdigits,
    readPort_nil, Option.isSome_none, bind, Except.bind, pure, Except.pure]
  simp [hname]

/-- The authority ends at the first slash. -/
theorem afterSlashes_of_isHostText (hkind : Kind.of scheme = .web port) (rest : List Char) :
    ∃ v, afterSlashes scheme (text ++ tail ++ '/' :: rest) = .ok v
      ∧ v.scheme = scheme ∧ v.authority = some { host } := by
  have hinside : ∀ c ∈ text ++ tail, (!endsAuthority (.web port) c) = true := by
    intro c hc
    rw [Bool.not_eq_true']
    rcases List.mem_append.1 hc with hc | hc
    · exact endsAuthority_of_isHostChar (Or.inl (htext.isHostChar c hc))
    · rcases htail with rfl | rfl
      · cases hc
      · rw [List.mem_singleton.1 hc]
        rfl
  have hend : ∀ c ∈ ('/' :: rest).head?, (!endsAuthority (.web port) c) = false := by
    intro c hc
    rw [← Option.some.inj hc]
    rfl
  simp only [afterSlashes, hkind, span_append hinside hend, readAuthority_of_isHostText htext hhost hname htail, bind,
    Except.bind, pure, Except.pure]
  exact ⟨_, rfl, rfl, rfl⟩

/-- The text between two slashes and a third is read as the host, whatever the base. -/
theorem resolve_of_isHostText (hkind : Kind.of scheme = .web port) (base : Option Url) (rest : List Char) :
    ∃ v, resolve base (scheme ++ ':' :: '/' :: '/' :: (text ++ tail ++ '/' :: rest)) = .ok v
      ∧ v.scheme = scheme ∧ v.authority = some { host } := by
  have hscheme := mem_webSchemes hkind
  have hmarks : ∀ c ∈ [':', '/', '/'], 32 < c.toNat := by simp
  have hvisible : ∀ c ∈ scheme ++ ([':', '/', '/'] ++ (text ++ (tail ++ ['/']))), 32 < c.toNat := by
    intro c hc
    simp only [List.mem_append] at hc
    rcases hc with hc | hc | hc | hc | hc
    · exact visible_of_mem_webSchemes hscheme c hc
    · exact hmarks c hc
    · exact htext.visible hc
    · rcases htail with rfl | rfl
      · cases hc
      · exact hmarks c (List.mem_cons.2 (Or.inl (List.mem_singleton.1 hc)))
    · exact hmarks c (List.mem_cons_of_mem _ (List.mem_cons_of_mem _ hc))
  obtain ⟨after, hcleaned⟩ := exists_cleaned_append hvisible (by simp) rest
  have hread : cleaned (scheme ++ ':' :: '/' :: '/' :: (text ++ tail ++ '/' :: rest))
      = scheme ++ ':' :: '/' :: '/' :: (text ++ tail ++ '/' :: after) := by
    simpa using hcleaned
  have hfirst : (text ++ tail ++ '/' :: after).dropWhile anySlash = text ++ tail ++ '/' :: after := by
    obtain ⟨c, cs, hcs⟩ := List.exists_cons_of_ne_nil htext.ne_nil
    have hc : anySlash c = false := htext.anySlash (by rw [hcs]; exact List.mem_cons_self)
    rw [hcs, List.cons_append, List.cons_append, List.dropWhile_cons_of_neg (by simp [hc])]
  simp only [resolve, hread, splitScheme_append hscheme]
  rw [absoluteUrl_slashes hkind, hfirst]
  exact afterSlashes_of_isHostText htext hhost hname htail hkind after

end LinkSurvey.Url
