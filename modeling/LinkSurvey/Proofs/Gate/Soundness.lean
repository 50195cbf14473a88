import LinkSurvey.Proofs.UrlSet.Gated

/-!
Links to web pages pass the gate, and nothing else does. What is accepted starts with one of the two schemes,
names a host and is printable, whatever page it was found on. What is refused is told by the scheme, not by how
it is written: taking out the characters that are ignored leaves a spelled scheme in front of its colon, and every
way of reading on keeps it.
-/

namespace LinkSurvey

open Url

/-! ### Schemes as they are spelled -/

namespace Url

/-- A candidate that spells the scheme `name`: in letters of either case, after blanks and control characters,
and with tabs and line breaks anywhere. -/
inductive Spells : List Char → List Char → Prop where
  | mk {lead spelled : List Char} {first : Char} {others : List Char} (rest : List Char)
      (hlead : ∀ c ∈ lead, c.toNat ≤ 32)
      (hspelled : spelled.filter (· ∉ ['\t', '\n', '\r']) = first :: others)
      (hfirst : first.isAlpha = true) (hothers : ∀ c ∈ others, isSchemeChar c = true) :
      Spells (lead ++ spelled ++ ':' :: rest) ((first :: others).map Char.toLower)

theorem visible_of_isSchemeChar {c : Char} (h : isSchemeChar c = true) : 32 < c.toNat := by
  by_contra hsmall
  have hnone : ∀ n < 33, isSchemeChar (Char.ofNat n) = false := by decide
  have hc := hnone c.toNat (by omega)
  rw [Char.ofNat_toNat, h] at hc
  cases hc

theorem Spells.splitScheme_cleaned {candidate name : List Char} (h : Spells candidate name) :
    ∃ rest, splitScheme (cleaned candidate) = some (name, rest) := by
  cases h with
  | @mk lead spelled first others rest hlead hspelled hfirst hothers =>
      have hchars : ∀ c ∈ first :: others, isSchemeChar c = true := by
        refine List.forall_mem_cons.2 ⟨?_, hothers⟩
        rw [isSchemeChar, Char.isAlphanum, hfirst]
        rfl
      have hname : ((lead ++ spelled).dropWhile (·.toNat ≤ 32)).filter (· ∉ ['\t', '\n', '\r'])
          = first :: others := by
        rw [List.dropWhile_append_of_pos fun c hc => decide_eq_true (hlead c hc), filter_dropWhile, hspelled]
        rw [hspelled]
        exact fun c hc => visible_of_isSchemeChar (hchars c hc)
      obtain ⟨rest', hcleaned⟩ := cleaned_append_cons (by decide : 32 < ':'.toNat) (lead ++ spelled) rest
      have hcolon : ∀ c ∈ (':' :: rest').head?, isSchemeChar c = false := by simp [isSchemeChar]
      refine ⟨rest', ?_⟩
      rw [hcleaned, hname, splitScheme, span_append hchars hcolon]
      simp only [List.head?_cons, Option.any_some, hfirst, if_true]

theorem scheme_of_kind_file {u : Url} (h : u.kind = .file) : u.scheme = ['f', 'i', 'l', 'e'] := by
  rw [kind, Kind.of] at h
  split_ifs at h with _ _ _ _ _ hfile
  exact hfile

/-- A URL that is read has the scheme that stands in front of it. -/
theorem scheme_absoluteUrl {base : Option Url} {scheme cs : List Char} {u : Url}
    (h : absoluteUrl base scheme cs = .ok u) : u.scheme = scheme := by
  rw [absoluteUrl] at h
  split at h
  · rename_i hfile
    have hsame : ∀ b ∈ base.filter (·.scheme == scheme), b.kind = .file := by
      intro b hb
      obtain ⟨-, hscheme⟩ := Option.filter_eq_some_iff.1 hb
      rw [kind, beq_iff_eq.1 hscheme, hfile]
    have hscheme : Url.kind ⟨scheme, none, .segments [], none, none⟩ = .file := hfile
    rw [scheme_of_kind_file (kind_fileReference hsame h), ← scheme_of_kind_file hscheme]
  · exact scheme_otherUrl h
  · split at h
    · rename_i b hb
      obtain ⟨-, hsame⟩ := Option.filter_eq_some_iff.1 hb
      rw [Bool.and_eq_true, beq_iff_eq] at hsame
      rw [scheme_relativeUrl h, hsame.1]
    · exact scheme_afterSlashes h

theorem Spells.scheme_resolve {candidate name : List Char} (h : Spells candidate name) {base : Option Url}
    {u : Url} (hu : resolve base candidate = .ok u) : u.scheme = name := by
  obtain ⟨rest, hsplit⟩ := h.splitScheme_cleaned
  simp only [resolve, hsplit] at hu
  exact scheme_absoluteUrl hu

end Url

/-! ### Links that are accepted -/

theorem Text.Utf8.mem_encode_of_isPrintable {cs : List Char} (h : ∀ c ∈ cs, IsPrintable c) {b : UInt8}
    (hb : b ∈ encode cs) : 0x21 ≤ b ∧ b ≤ 0x7E := by
  obtain ⟨c, hc, hb⟩ := List.mem_flatMap.1 hb
  obtain ⟨hlow, hhigh⟩ := h c hc
  have hval : c.val.toNat = c.toNat := rfl
  have hascii : c.val.toNat ≤ 127 := by omega
  simp only [String.utf8EncodeChar, if_pos hascii, List.mem_singleton] at hb
  rw [hb, UInt8.le_iff_toNat_le, UInt8.le_iff_toNat_le, UInt8.toNat_ofNat', Nat.mod_eq_of_lt (by omega)]
  exact ⟨by simp; omega, by simp; omega⟩

/-- A link names a host, after its scheme and what it says of users. -/
theorem WebUrl.IsNormal.exists_host {u : WebUrl} (h : u.IsNormal) :
    ∃ a after, u.url.authority = some a ∧ a.host.text ≠ []
      ∧ u.text = u.url.scheme ++ ':' :: '/' :: '/' :: (a.credentials ++ a.host.text ++ a.portText ++ after) := by
  obtain ⟨port, hport⟩ := h
  obtain ⟨a, hauthority, ha⟩ := hport.authority
  obtain ⟨names, hpath, -⟩ := hport.path
  refine ⟨a, segmentsText names ++ (withMark '?' u.url.query ++ withMark '#' u.url.fragment), hauthority,
    ha.host.text_ne_nil, ?_⟩
  rw [WebUrl.text, Url.text_eq hauthority hpath, afterScheme, Authority.text]

namespace Gate

theorem toLower_of_isBlank {c : Char} (h : Text.isBlank c = true) : c.toLower = c := by
  have hcapital : ¬('A'.val ≤ c.val ∧ c.val ≤ 'Z'.val) := by
    have hval : c.val.toNat = c.toNat := rfl
    have hbounds : 'A'.val.toNat = 65 ∧ 'Z'.val.toNat = 90 := by decide
    rw [UInt32.le_iff_toNat_le, UInt32.le_iff_toNat_le]
    simp only [Text.isBlank, Bool.or_eq_true, Bool.and_eq_true, decide_eq_true_eq, beq_iff_eq] at h
    omega
  exact dif_neg hcapital

/-- A candidate that reads `mailto:` in any case, after any white space. -/
inductive IsMail : List Char → Prop where
  | mk {lead mail : List Char} (rest : List Char) (hlead : ∀ c ∈ lead, Text.isBlank c = true)
      (hmail : mail.map Char.toLower = ['m', 'a', 'i', 'l', 't', 'o', ':']) : IsMail (lead ++ mail ++ rest)

theorem IsMail.isMailto {candidate : List Char} (h : IsMail candidate) : isMailto candidate = true := by
  cases h with
  | @mk lead mail rest hlead hmail =>
      have hlength : mail.length = 7 := by
        rw [← List.length_map, hmail]
        rfl
      have hstart : (mail ++ rest).dropWhile Text.isBlank = mail ++ rest := by
        cases mail with
        | nil => cases hmail
        | cons c mail =>
            refine List.dropWhile_cons_of_neg fun hblank => ?_
            have hc : c.toLower = 'm' := (List.cons.inj hmail).1
            rw [toLower_of_isBlank hblank] at hc
            rw [hc] at hblank
            exact absurd hblank (by decide)
      rw [Gate.isMailto, Text.trimStart, List.append_assoc, List.dropWhile_append_of_pos hlead, hstart,
        List.take_left' hlength, hmail]
      rfl

theorem isMailto_iff {candidate : List Char} : isMailto candidate = true ↔ IsMail candidate := by
  refine ⟨fun h => ?_, IsMail.isMailto⟩
  have hmail : ((Text.trimStart candidate).take 7).map Char.toLower = ['m', 'a', 'i', 'l', 't', 'o', ':'] :=
    beq_iff_eq.1 h
  have hsplit : candidate = candidate.takeWhile Text.isBlank ++ (Text.trimStart candidate).take 7
      ++ (Text.trimStart candidate).drop 7 := by
    rw [List.append_assoc, List.take_append_drop, Text.trimStart, List.takeWhile_append_dropWhile]
  rw [hsplit]
  exact .mk _ (List.all_eq_true.1 List.all_takeWhile) hmail

theorem normalize_eq_mailto_iff {page : Url} {candidate : List Char} :
    normalize page candidate = .error .mailto ↔ IsMail candidate := by
  rw [← isMailto_iff, normalize]
  cases isMailto candidate with
  | true => exact ⟨fun _ => rfl, fun _ => rfl⟩
  | false =>
      refine ⟨fun h => ?_, fun h => absurd h Bool.false_ne_true⟩
      simp only [Bool.false_eq_true, if_false] at h
      split at h
      · cases h
      · rw [ofUrl] at h
        split at h <;> cases h

/-- What is accepted has the scheme of the URL that the candidate is resolved to. -/
theorem scheme_of_normalize {page v : Url} {candidate : List Char} {u : WebUrl}
    (hu : normalize page candidate = .ok u) (hv : resolve (some page) candidate = .ok v) :
    v.scheme = http ∨ v.scheme = https := by
  have hsame : u.url = v := Except.ok.inj ((normalize_eq_ok.1 hu).2.symm.trans hv)
  have hhttp := u.isHttp
  rw [hsame, isHttp, Bool.or_eq_true, beq_iff_eq, beq_iff_eq] at hhttp
  exact hhttp

/-- On any page, a link that is accepted starts with `http://` or `https://`, names a host that is not empty, and
has a text of visible ASCII characters. What reads as an address for mail is refused as such, and so is whatever is
resolved to a URL of another scheme or spells one; every other candidate that is resolved is accepted. -/
theorem normalize_sound {page : Url} (hpage : page.Read) (candidate : List Char) :
    (∀ u, normalize page candidate = .ok u →
      (∃ a after, u.url.authority = some a ∧ a.host.text ≠ [] ∧ ∃ scheme, (scheme = http ∨ scheme = https)
          ∧ u.text = scheme ++ ':' :: '/' :: '/' :: (a.credentials ++ a.host.text ++ a.portText ++ after))
        ∧ ∀ b ∈ Text.Utf8.encode u.text, 0x21 ≤ b ∧ b ≤ 0x7E)
      ∧ (normalize page candidate = .error .mailto ↔ IsMail candidate)
      ∧ (∀ v, resolve (some page) candidate = .ok v → v.scheme ≠ http → v.scheme ≠ https →
        ∃ why, normalize page candidate = .error why)
      ∧ (∀ name, Spells candidate name → name ≠ http → name ≠ https →
        ∃ why, normalize page candidate = .error why)
      ∧ ∀ v, resolve (some page) candidate = .ok v → (v.scheme = http ∨ v.scheme = https) → ¬IsMail candidate →
        ∃ u, normalize page candidate = .ok u ∧ u.url = v := by
  have hrefused : (∀ u, normalize page candidate ≠ .ok u) → ∃ why, normalize page candidate = .error why := by
    intro hnone
    cases hresult : normalize page candidate with
    | error why => exact ⟨why, rfl⟩
    | ok u => exact absurd hresult (hnone u)
  refine ⟨fun u hu => ?_, normalize_eq_mailto_iff, ?_, ?_, ?_⟩
  · have hnormal := isNormal_of_normalize hpage hu
    obtain ⟨a, after, hauthority, hhost, htext⟩ := hnormal.exists_host
    have hscheme := scheme_of_normalize hu (normalize_eq_ok.1 hu).2
    exact ⟨⟨a, after, hauthority, hhost, u.url.scheme, hscheme, htext⟩,
      fun b hb => Text.Utf8.mem_encode_of_isPrintable (fun c hc => hnormal.isPrintable hc) hb⟩
  · intro v hv hhttp hhttps
    exact hrefused fun u hu => (scheme_of_normalize hu hv).elim hhttp hhttps
  · intro name hspells hhttp hhttps
    refine hrefused fun u hu => ?_
    have hread := (normalize_eq_ok.1 hu).2
    rcases scheme_of_normalize hu hread with h | h
    · exact hhttp ((hspells.scheme_resolve hread).symm.trans h)
    · exact hhttps ((hspells.scheme_resolve hread).symm.trans h)
  · intro v hv hscheme hmail
    have hhttp : v.isHttp = true := by
      rw [isHttp, Bool.or_eq_true, beq_iff_eq, beq_iff_eq]
      exact hscheme
    have hother : isMailto candidate = false := by
      rw [← Bool.not_eq_true, isMailto_iff]
      exact hmail
    exact ⟨⟨v, hhttp⟩, normalize_eq_ok.2 ⟨hother, hv⟩, rfl⟩

/-- A reference with a letter that is not ASCII, an address for mail after a wide blank, and a scheme with a tab
in it. -/
theorem normalize_sound_loopback :
    (∃ u, normalize loopbackPage ['é', '\n', '"'] = .ok u ∧ ∀ b ∈ Text.Utf8.encode u.text, 0x21 ≤ b ∧ b ≤ 0x7E)
      ∧ normalize loopbackPage ['\u2003', 'M', 'a', 'i', 'L', 't', 'o', ':', 'x'] = .error .mailto
      ∧ ∃ why, normalize loopbackPage ['\x01', 'j', '\t', 'S', ':', '1'] = .error why := by
  obtain ⟨u, hpass⟩ : ∃ u, normalize loopbackPage ['é', '\n', '"'] = .ok u := ⟨_, rfl⟩
  have hmail : IsMail ['\u2003', 'M', 'a', 'i', 'L', 't', 'o', ':', 'x'] :=
    @IsMail.mk ['\u2003'] ['M', 'a', 'i', 'L', 't', 'o', ':'] ['x'] (List.forall_mem_singleton.2 rfl) rfl
  have hspells : Spells ['\x01', 'j', '\t', 'S', ':', '1'] ['j', 's'] :=
    @Spells.mk ['\x01'] ['j', '\t', 'S'] 'j' ['S'] ['1'] (List.forall_mem_singleton.2 (by decide)) rfl rfl
      (List.forall_mem_singleton.2 rfl)
  refine ⟨⟨u, hpass, ((normalize_sound read_loopbackPage _).1 u hpass).2⟩, ?_, ?_⟩
  · exact (normalize_sound read_loopbackPage _).2.1.2 hmail
  · exact (normalize_sound read_loopbackPage _).2.2.2.1 ['j', 's'] hspells (by decide) (by decide)

end Gate

end LinkSurvey
