import LinkSurvey.Proofs.DomainName.Ideographs
import LinkSurvey.Proofs.Gate
import LinkSurvey.Proofs.Url.Named

/-!
Links that are not read again. The gate lets through a host that is a label of many ideographs, and writes it in
digits. If the ideographs lie far apart these are more digits than are read, so the link does not stand for itself.
-/

namespace LinkSurvey

open DomainName (IsIdeograph inDigits)

section Labels

variable {label : List Char} (hlabel : ∀ c ∈ label, IsIdeograph c) (hne : label ≠ [])
include hlabel hne

namespace Url

theorem isHostText_of_ideographs : IsHostText label where
  ne_nil := hne
  isHostChar := by
    intro c hc
    have hother : c ∉ ['/', '\\', '?', '#', '@'] := (hlabel c hc).not_mem_of_ascii (by decide)
    have hlarge := (hlabel c hc).not_ascii
    rw [isHostChar, decide_eq_true (by omega)]
    simpa using hother
  not_mem_colon := fun hmem => (hlabel ':' hmem).not_ascii (by decide)
  not_mem_bracket := fun hmem => (hlabel '[' hmem).not_ascii (by decide)

omit hne in
/-- What is written is no number. -/
theorem endsInNumber_inDigits : endsInNumber (inDigits label) = false := by
  have hdot : '.' ∉ inDigits label := fun hmem => (DomainName.mem_inDigits hlabel hmem).2 rfl
  have hparts : dottedParts (inDigits label) = [inDigits label] := by
    simp only [dottedParts, DomainName.splitOn_of_not_mem hdot]
    rfl
  have hnumber : ipv4Part? (inDigits label) = none := number?_cons_of_none (by decide) 10 _
  rw [endsInNumber, hparts]
  dsimp only [List.getLast?_singleton]
  rw [hnumber]
  rfl

theorem ofText_of_ideographs (hlength : label.length ≤ DomainName.longestEncoded) :
    Host.ofText label = .ok (.name (inDigits label)) := by
  have hbracket : label.head? ≠ some '[' := fun hhead =>
    (isHostText_of_ideographs hlabel hne).not_mem_bracket (List.mem_of_mem_head? hhead)
  have hpercent : '%' ∉ label := fun hmem => (hlabel '%' hmem).not_ascii (by decide)
  rw [ofText_of_toAscii? hbracket hpercent (DomainName.toAscii?_of_ideographs hlabel hne hlength)
    (List.cons_ne_nil _ _), endsInNumber_inDigits hlabel]
  rfl

end Url

namespace Gate

/-- From any page, a host of many ideographs that lie far apart is let through as one that is not read again. -/
theorem exists_normalize_of_spread (hlength : label.length ≤ DomainName.longestEncoded) {gap few : Nat}
    (hspread : DomainName.Punycode.Rises gap 128 label) (hfew : 911 ≤ gap * (few + 1))
    (hmany : DomainName.longestDecoded < 3 * (label.length - few)) (page : Url) (rest : List Char) :
    ∃ u : WebUrl, normalize page (Url.http ++ ':' :: '/' :: '/' :: (label ++ '/' :: rest)) = .ok u
      ∧ ¬u.StandsForItself := by
  have hkind : Url.Kind.of Url.http = .web 80 := rfl
  have hname : Url.Host.name (inDigits label) ≠ .name [] := by simp [inDigits]
  obtain ⟨v, hv, hscheme, hauthority⟩ := Url.resolve_of_isHostText (Url.isHostText_of_ideographs hlabel hne)
    (Url.ofText_of_ideographs hlabel hne hlength) hname (Or.inl rfl) hkind (some page) rest
  rw [List.append_nil] at hv
  have hhttp : v.isHttp = true := by
    rw [Url.isHttp, hscheme]
    rfl
  have hmail : isMailto (Url.http ++ ':' :: '/' :: '/' :: (label ++ '/' :: rest)) = false := rfl
  refine ⟨⟨v, hhttp⟩, normalize_eq_ok.2 ⟨hmail, hv⟩, fun hself => ?_⟩
  have hread : DomainName.toAscii? (inDigits label) = some (inDigits label) := hself _ hauthority
  rw [DomainName.toAscii?_inDigits hlabel hspread hfew hmany] at hread
  cases hread

end Gate

end Labels

namespace Gate

/-- A label of 720 ideographs, each the 29th after the last. -/
def distantLabel : List Char :=
  (List.range' 0x4E00 720 29).map Char.ofNat

/-- A link to a page of the host of this label. -/
def distantCandidate (rest : List Char) : List Char :=
  Url.http ++ ':' :: '/' :: '/' :: (distantLabel ++ '/' :: rest)

theorem isIdeograph_of_mem_distantLabel {c : Char} (hc : c ∈ distantLabel) : IsIdeograph c := by
  obtain ⟨code, hcode, rfl⟩ := List.mem_map.1 hc
  obtain ⟨i, hi, rfl⟩ := List.mem_range'.1 hcode
  rw [IsIdeograph, DomainName.Punycode.toNat_ofNat_of_lt (by omega)]
  omega

theorem exists_normalize_distantCandidate (page : Url) (rest : List Char) :
    ∃ u : WebUrl, normalize page (distantCandidate rest) = .ok u ∧ ¬u.StandsForItself := by
  have hlength : distantLabel.length = 720 := by rw [distantLabel, List.length_map, List.length_range']
  have hspread : DomainName.Punycode.Rises 28 128 distantLabel :=
    DomainName.Punycode.rises_range' (by decide) (by decide)
  refine exists_normalize_of_spread (fun c hc => isIdeograph_of_mem_distantLabel hc) ?_ ?_ hspread
    (show 911 ≤ 28 * (32 + 1) by decide) ?_ page rest
  · exact List.ne_nil_of_length_pos (by omega)
  · rw [hlength]
    decide
  · rw [hlength]
    decide

end Gate

end LinkSurvey
