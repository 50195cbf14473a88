import LinkSurvey.Gate
import LinkSurvey.Proofs.Url.Text

/-!
The gate is a normal form, but for hosts whose ASCII form has no ASCII form of its own: any other link that has
passed it stands for itself from then on, whatever page it is seen from. No two links have the same text.
-/

namespace LinkSurvey

open Url

/-- A link as it is read. -/
def WebUrl.IsNormal (u : WebUrl) : Prop :=
  ∃ port, u.url.IsNormal port

/-- A link whose host is its own ASCII form, or an address. -/
def WebUrl.StandsForItself (u : WebUrl) : Prop :=
  u.url.StandsForItself

/-- The text of a link says all there is to it. -/
theorem WebUrl.IsNormal.text_injective {u v : WebUrl} (hu : u.IsNormal) (hv : v.IsNormal)
    (h : u.text = v.text) : u = v := by
  obtain ⟨port, hu⟩ := hu
  obtain ⟨other, hv⟩ := hv
  have hurl : u.url = v.url := hu.text_injective hv h
  cases u with
  | mk url hhttp =>
      cases v with
      | mk url' hhttp' =>
          cases hurl
          rfl

namespace Gate

theorem kind_of_isHttp {u : Url} (h : u.isHttp = true) : ∃ port, u.kind = .web port := by
  rw [isHttp, Bool.or_eq_true, beq_iff_eq, beq_iff_eq] at h
  rcases h with h | h
  · refine ⟨80, ?_⟩
    rw [kind, h]
    rfl
  · refine ⟨443, ?_⟩
    rw [kind, h]
    rfl

/-- What passes: what is resolved to a web page's URL and does not look like an address for mail. -/
theorem normalize_eq_ok {page : Url} {candidate : List Char} {u : WebUrl} :
    normalize page candidate = .ok u ↔
      isMailto candidate = false ∧ resolve (some page) candidate = .ok u.url := by
  rw [normalize]
  cases hmail : isMailto candidate with
  | true => simp
  | false =>
      cases hread : resolve (some page) candidate with
      | error e => simp
      | ok url =>
          simp only [Bool.false_eq_true, if_false, true_and, Except.ok.injEq]
          refine ⟨fun h => ?_, fun h => ?_⟩
          · rw [ofUrl] at h
            split at h
            · rw [← Except.ok.inj h]
            · cases h
          · rw [h, ofUrl, dif_pos u.isHttp]

theorem isNormal_of_normalize {page : Url} (hpage : page.Read) {candidate : List Char} {u : WebUrl}
    (h : normalize page candidate = .ok u) : u.IsNormal := by
  obtain ⟨port, hport⟩ := kind_of_isHttp u.isHttp
  refine ⟨port, isNormal_resolve ?_ (normalize_eq_ok.1 h).2 hport⟩
  intro b hb hkind
  rw [← Option.some.inj hb] at hkind ⊢
  exact hpage.isNormal hkind

/-- A link starts with its scheme. -/
theorem head?_text (u : WebUrl) : u.text.head? = some 'h' := by
  have hscheme : u.url.scheme.head? = some 'h' := by
    have hhttp := u.isHttp
    rw [isHttp, Bool.or_eq_true, beq_iff_eq, beq_iff_eq] at hhttp
    rcases hhttp with h | h
    · rw [h]
      rfl
    · rw [h]
      rfl
  simp [WebUrl.text, text, beforePath, hscheme]

theorem isMailto_text (u : WebUrl) : isMailto u.text = false := by
  obtain ⟨cs, hcs⟩ := List.head?_eq_some_iff.1 (head?_text u)
  have hblank : ¬Text.isBlank 'h' = true := by decide
  rw [isMailto, hcs, Text.trimStart, List.dropWhile_cons_of_neg hblank, List.take_succ_cons, List.map_cons,
    beq_eq_false_iff_ne]
  intro hmail
  exact absurd (List.cons.inj hmail).1 (by decide)

theorem normalize_of_isNormal {u : WebUrl} (h : u.IsNormal) (hself : u.StandsForItself) (page : Url) :
    normalize page u.text = .ok u := by
  obtain ⟨port, hport⟩ := h
  exact normalize_eq_ok.2 ⟨isMailto_text u, hport.resolve_text_self hself (some page)⟩

/-- Whatever link a text of a link is taken for stands for itself. -/
theorem standsForItself_of_normalize {u v : WebUrl} (h : u.IsNormal) {page : Url}
    (hv : normalize page u.text = .ok v) : v.StandsForItself := by
  obtain ⟨port, hport⟩ := h
  exact (hport.of_resolve_text (normalize_eq_ok.1 hv).2).2

/-- A link that has passed, and whose host is its own ASCII form, is itself when it is seen again, from any
page. -/
theorem normalize_text {page other : Url} (hpage : page.Read) {candidate : List Char} {u : WebUrl}
    (h : normalize page candidate = .ok u) (hself : u.StandsForItself) : normalize other u.text = .ok u :=
  normalize_of_isNormal (isNormal_of_normalize hpage h) hself other

/-- The page `http://[::1]/a/b`. -/
def loopbackPage : Url :=
  ⟨http, some { host := .ipv6 ⟨[0, 0, 0, 0, 0, 0, 0, 1], rfl⟩ }, .segments [['a'], ['b']], none, none⟩

theorem read_loopbackPage : loopbackPage.Read := by
  have hparse : parse (String.ofList
      ['h', 't', 't', 'p', ':', '/', '/', '[', ':', ':', '1', ']', '/', 'a', '/', 'b']) = .ok loopbackPage := by
    rw [parse, String.toList_ofList]
    rfl
  exact .parse hparse

/-- A link to another host, whose name is written with a capital letter. -/
theorem normalize_text_loopback :
    parse (String.ofList
        ['h', 't', 't', 'p', ':', '\\', '/', '[', ':', ':', '1', ']', ':', '0', '8', '0', '/', 'a', '/', 'b'])
        = .ok loopbackPage
      ∧ ∃ u, normalize loopbackPage
          ['/', '/', 'A', '.', 'b', '/', '.', '%', '2', 'e', '/', 'c', '\n', ' ', 'd', '?', '\'', '#'] = .ok u
        ∧ u.StandsForItself ∧ normalize loopbackPage u.text = .ok u := by
  have hparse : parse (String.ofList
      ['h', 't', 't', 'p', ':', '\\', '/', '[', ':', ':', '1', ']', ':', '0', '8', '0', '/', 'a', '/', 'b'])
      = .ok loopbackPage := by
    rw [parse, String.toList_ofList]
    rfl
  have hpass : normalize loopbackPage
      ['/', '/', 'A', '.', 'b', '/', '.', '%', '2', 'e', '/', 'c', '\n', ' ', 'd', '?', '\'', '#'] =
      .ok ⟨{ loopbackPage with
        authority := some { host := .name ['a', '.', 'b'] }
        path := .segments [['c', '%', '2', '0', 'd']]
        query := some ['%', '2', '7']
        fragment := some [] }, rfl⟩ :=
    normalize_eq_ok.2 ⟨rfl, by decide +kernel⟩
  have hself : DomainName.toAscii? ['a', '.', 'b'] = some ['a', '.', 'b'] := by decide +kernel
  have hlink : ∀ a ∈ some ({ host := .name ['a', '.', 'b'] } : Authority), a.host.StandsForItself := by
    intro a ha
    cases ha
    exact hself
  exact ⟨hparse, _, hpass, hlink, normalize_text (.parse hparse) hpass hlink⟩

end Gate

end LinkSurvey
