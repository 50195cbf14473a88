import LinkSurvey.Proofs.Gate.Soundness
import LinkSurvey.Proofs.Inline.Addresses
import LinkSurvey.Proofs.Script.Literals

/-!
Candidates of scripts. All of them start with a scheme of the web and its two slashes, whether they were found as
words of the text or among its literals. Such a candidate is read without a look at the page, so a script means the
same links wherever it is loaded: what is accepted on one page is accepted on every other one as the same link, and
what is refused is refused for the same reason.
-/

namespace LinkSurvey

open Url

/-- A candidate that some script gives: an address in its text or one of its literals. -/
inductive ScriptCandidate : List Char → Prop where
  | address {text candidate : List Char} (h : candidate ∈ Inline.scriptAddresses text) : ScriptCandidate candidate
  | literal {source : List Char} {candidate : String} (h : candidate ∈ (Script.scan source).candidates) :
      ScriptCandidate candidate.toList

theorem Inline.Stand.isAddress {text : List Char} {addresses : List (List Char)} (h : Stand text addresses) :
    ∀ address ∈ addresses, IsAddress address := by
  induction h with
  | none _ => exact fun address hmem => absurd hmem List.not_mem_nil
  | next haddress _ _ _ ih => exact List.forall_mem_cons.2 ⟨haddress, ih⟩

/-- Both ways of looking at a script find what starts with a scheme and two slashes, and nothing else. -/
theorem ScriptCandidate.exists_scheme {candidate : List Char} (h : ScriptCandidate candidate) :
    ∃ scheme rest, (scheme = http ∨ scheme = https) ∧ candidate = scheme ++ ':' :: '/' :: '/' :: rest := by
  have hprefix : "http://".toList <+: candidate ∨ "https://".toList <+: candidate := by
    cases h with
    | @address text _ hmem =>
        have haddress := (Inline.stand_scriptAddresses text).isAddress candidate hmem
        obtain ⟨front, hfront, c, rest, rfl⟩ := Inline.opensAddress_iff.1 haddress.opens
        simp only [Inline.webSchemes, List.mem_cons, List.not_mem_nil, or_false] at hfront
        rcases hfront with rfl | rfl
        · exact Or.inl (List.prefix_append _ _)
        · exact Or.inr (List.prefix_append _ _)
    | literal hmem => exact (Script.isWebAddress_iff _).1 (Script.isWebAddress_of_mem_scan hmem)
  rcases hprefix with ⟨rest, rfl⟩ | ⟨rest, rfl⟩
  · exact ⟨http, rest, Or.inl rfl, rfl⟩
  · exact ⟨https, rest, Or.inr rfl, rfl⟩

namespace Gate

/-- What a candidate of a script is resolved to does not depend on the base. -/
theorem resolve_script {candidate : List Char} (h : ScriptCandidate candidate) (base other : Option Url) :
    resolve base candidate = resolve other candidate := by
  obtain ⟨scheme, rest, hscheme, rfl⟩ := h.exists_scheme
  obtain ⟨port, hkind⟩ : ∃ port, Kind.of scheme = .web port := by
    rcases hscheme with rfl | rfl
    · exact ⟨80, rfl⟩
    · exact ⟨443, rfl⟩
  obtain ⟨after, hread⟩ := exists_resolve_slashes hkind rest
  rw [hread, hread]

theorem normalize_script {candidate : List Char} (h : ScriptCandidate candidate) (page other : Url) :
    normalize page candidate = normalize other candidate := by
  rw [normalize, normalize, resolve_script h (some page) (some other)]

/-- On any two pages a candidate of a script is accepted as the same link or refused for the same reason, so a set
that is offered what scripts give grows on both pages by the same links. -/
theorem normalize_script_anywhere (page other : Url) :
    (∀ candidate, ScriptCandidate candidate → normalize page candidate = normalize other candidate)
      ∧ ∀ candidates : List (List Char), (∀ c ∈ candidates, ScriptCandidate c) → ∀ s : UrlSet,
        s.offerAll page candidates = s.offerAll other candidates := by
  refine ⟨fun candidate h => normalize_script h page other, fun candidates hall s => ?_⟩
  have hoffer : ∀ c ∈ candidates, ∀ s : UrlSet, s.offer page c = s.offer other c := by
    intro c hc s
    rw [UrlSet.offer, UrlSet.offer, normalize_script (hall c hc) page other]
  rw [UrlSet.offerAll, UrlSet.offerAll]
  exact List.foldl_ext _ _ _ fun acc c hc => by simp only [hoffer c hc]

/-- An address with a backslash and one whose host is none, seen from a page of the same scheme and from one whose
path has no structure. -/
theorem normalize_script_anywhere_loopback :
    ScriptCandidate "http:///\\[::1]:80".toList ∧ ScriptCandidate "https://[".toList
      ∧ normalize loopbackPage "http:///\\[::1]:80".toList
        = normalize ⟨['x'], none, .opaqueText [], none, none⟩ "http:///\\[::1]:80".toList
      ∧ UrlSet.empty.offerAll loopbackPage ["http:///\\[::1]:80".toList, "https://[".toList]
        = UrlSet.empty.offerAll ⟨['x'], none, .opaqueText [], none, none⟩
          ["http:///\\[::1]:80".toList, "https://[".toList] := by
  have hfirst : ScriptCandidate "http:///\\[::1]:80".toList :=
    @ScriptCandidate.address "\t(http:///\\[::1]:80 ".toList _ (by decide +kernel)
  have hsecond : ScriptCandidate "https://[".toList :=
    @ScriptCandidate.literal "'https://['".toList "https://[" (by decide +kernel)
  have hboth := List.forall_mem_cons.2 ⟨hfirst, List.forall_mem_singleton.2 hsecond⟩
  exact ⟨hfirst, hsecond, (normalize_script_anywhere _ _).1 _ hfirst, (normalize_script_anywhere _ _).2 _ hboth _⟩

end Gate

end LinkSurvey
