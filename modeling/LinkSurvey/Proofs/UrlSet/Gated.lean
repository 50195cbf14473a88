import LinkSurvey.Proofs.Gate.Distant
import LinkSurvey.Proofs.Url.Printable
import LinkSurvey.Proofs.UrlSet.History

/-!
Sets that hold nothing but what the gate let through. A text is looked for in a set by reading it, and the text
of a member is read as the member if its host stands for itself, and as no member otherwise. So a set finds the
texts of those members and nothing else; and it is made again from the list of its texts, on any page, if and
only if all its members are such.
-/

namespace LinkSurvey

open Gate

/-- The text of a link as it is read is printable. -/
theorem WebUrl.IsNormal.isPrintable {u : WebUrl} (h : u.IsNormal) {c : Char} (hc : c ∈ u.text) :
    Url.IsPrintable c := by
  obtain ⟨port, hport⟩ := h
  exact hport.isPrintable hc

/-- A link starts with its scheme and two slashes. -/
theorem WebUrl.IsNormal.exists_text_eq {u : WebUrl} (h : u.IsNormal) :
    ∃ rest, u.text = Url.http ++ ':' :: '/' :: '/' :: rest ∨ u.text = Url.https ++ ':' :: '/' :: '/' :: rest := by
  obtain ⟨port, hport⟩ := h
  obtain ⟨a, hauthority, -⟩ := hport.authority
  obtain ⟨names, hpath, -⟩ := hport.path
  have hscheme := u.isHttp
  rw [Url.isHttp, Bool.or_eq_true, beq_iff_eq, beq_iff_eq] at hscheme
  rw [WebUrl.text, Url.text_eq hauthority hpath]
  exact ⟨_, hscheme.imp (fun h => by rw [h]) (fun h => by rw [h])⟩

namespace UrlSet

/-- The sets that come about by what the gate lets through, on pages that were read. -/
inductive Gated : UrlSet → Prop where
  | empty : Gated empty
  | offer {s : UrlSet} (hs : Gated s) {page : Url} (hpage : page.Read) (candidate : List Char) :
      Gated (s.offer page candidate).1
  | offerAll {s : UrlSet} (hs : Gated s) {page : Url} (hpage : page.Read) (candidates : List (List Char)) :
      Gated (s.offerAll page candidates).1
  | insert {s : UrlSet} (hs : Gated s) {page : Url} (hpage : page.Read) {candidate : List Char} {u : WebUrl}
      (hu : normalize page candidate = .ok u) : Gated (s.insertNew u).1
  | union {s t : UrlSet} (hs : Gated s) (ht : Gated t) : Gated (s.union t)

theorem isNormal_insert {s : UrlSet} (hs : s.IsNormal) {u : WebUrl} (hu : u.IsNormal) :
    (s.insert u).IsNormal := by
  intro w hw
  rcases mem_insertList hw with rfl | hw
  · exact hu
  · exact hs w hw

theorem isNormal_union {s t : UrlSet} (hs : s.IsNormal) (ht : t.IsNormal) : (s.union t).IsNormal := by
  refine List.foldlRecOn t.members _ (motive := IsNormal) hs ?_
  intro s hs u hu
  exact isNormal_insert hs (ht u hu)

theorem Gated.isNormal {s : UrlSet} (h : Gated s) : s.IsNormal := by
  induction h with
  | empty => exact isNormal_empty
  | offer _ hpage candidate ih => exact isNormal_offer hpage ih candidate
  | offerAll _ hpage candidates ih => exact isNormal_offerAll hpage ih candidates
  | insert _ hpage hu ih => exact isNormal_insert ih (isNormal_of_normalize hpage hu)
  | union _ _ ihs iht => exact isNormal_union ihs iht

/-! ### A set from its own texts -/

/-- Inserting members in their order puts each one at the end. -/
theorem insertList_append {u : WebUrl} {vs : List WebUrl} (h : ∀ v ∈ vs, v.text < u.text) :
    insertList u vs = vs ++ [u] := by
  induction vs with
  | nil => rfl
  | cons v vs ih =>
      obtain ⟨hv, hvs⟩ := List.forall_mem_cons.1 h
      have hne : u.text ≠ v.text := fun heq => List.lt_irrefl u.text (heq ▸ hv)
      have hnlt : ¬u.text < v.text := fun hlt => List.lt_irrefl u.text (text_lt_trans hlt hv)
      rw [insertList, if_neg hne, if_neg hnlt, ih hvs, List.cons_append]

theorem ext_members {s t : UrlSet} (h : s.members = t.members) : s = t := by
  cases s
  cases t
  cases h
  rfl

/-- A link whose text is greater than those of all members becomes the last member. -/
theorem members_offer_text {s : UrlSet} {u : WebUrl} (hu : u.IsNormal) (hself : u.StandsForItself)
    (hs : ∀ v ∈ s.members, v.text < u.text) (page : Url) :
    (s.offer page u.text).1.members = s.members ++ [u] := by
  rw [offer, normalize_of_isNormal hu hself page]
  exact insertList_append hs

/-- The texts of a sorted list of links, let through the gate one by one after those before them. -/
theorem members_foldl_texts (page : Url) {s : UrlSet} {later : List WebUrl}
    (hlater : ∀ u ∈ later, u.IsNormal ∧ u.StandsForItself)
    (hsorted : (s.members ++ later).Pairwise (fun a b => a.text < b.text)) :
    ((later.map WebUrl.text).foldl (fun s c => (s.offer page c).1) s).members = s.members ++ later := by
  induction later generalizing s with
  | nil => exact (List.append_nil _).symm
  | cons u later ih =>
      obtain ⟨hu, hrest⟩ := List.forall_mem_cons.1 hlater
      have hbefore : ∀ v ∈ s.members, v.text < u.text := fun v hv =>
        (List.pairwise_append.1 hsorted).2.2 v hv u List.mem_cons_self
      have hshift : (s.offer page u.text).1.members ++ later = s.members ++ u :: later := by
        rw [members_offer_text hu.1 hu.2 hbefore page, List.append_assoc, List.singleton_append]
      rw [List.map_cons, List.foldl_cons, ih hrest (hshift ▸ hsorted), hshift]

/-- The texts of a set, let through the gate again, make up the same set and are all new to it. -/
theorem IsNormal.offerAll_texts {s : UrlSet} (h : s.IsNormal) (hself : ∀ u ∈ s.members, u.StandsForItself)
    (page : Url) : empty.offerAll page s.texts = (s, s.size) := by
  have hset : (empty.offerAll page s.texts).1 = s := by
    rw [offerAll_eq_foldl]
    exact ext_members (members_foldl_texts page (fun u hu => ⟨h u hu, hself u hu⟩) s.sorted)
  have hcount := size_offerAll empty page s.texts
  rw [hset] at hcount
  have hempty : empty.size = 0 := rfl
  exact Prod.ext hset (by omega)

/-- Whatever is in a set was there before or stands for some candidate. -/
theorem mem_offerAll_or {s : UrlSet} {page : Url} {candidates : List (List Char)} {u : WebUrl}
    (h : u ∈ (s.offerAll page candidates).1.members) :
    u ∈ s.members ∨ ∃ c ∈ candidates, normalize page c = .ok u := by
  rw [offerAll_eq_foldl] at h
  induction candidates generalizing s with
  | nil => exact Or.inl h
  | cons c candidates ih =>
      rcases ih h with hmem | ⟨other, hother, hu⟩
      · dsimp only at hmem
        rw [offer] at hmem
        cases hc : normalize page c with
        | error e =>
            rw [hc] at hmem
            exact Or.inl hmem
        | ok v =>
            rw [hc] at hmem
            rcases mem_insertList hmem with rfl | hmem
            · exact Or.inr ⟨c, List.mem_cons_self, hc⟩
            · exact Or.inl hmem
      · exact Or.inr ⟨other, List.mem_cons_of_mem c hother, hu⟩

/-- A set is made again from its texts exactly if the hosts of its members stand for themselves. -/
theorem IsNormal.offerAll_texts_iff {s : UrlSet} (h : s.IsNormal) (page : Url) :
    empty.offerAll page s.texts = (s, s.size) ↔ ∀ u ∈ s.members, u.StandsForItself := by
  refine ⟨fun hsame u hu => ?_, fun hself => h.offerAll_texts hself page⟩
  have hmem : u ∈ (empty.offerAll page s.texts).1.members := by
    rw [hsame]
    exact hu
  rcases mem_offerAll_or hmem with hmem | ⟨c, hc, hu⟩
  · cases hmem
  · obtain ⟨v, hv, rfl⟩ := List.mem_map.1 hc
    exact standsForItself_of_normalize (h v hv) hu

/-! ### What is found in a set -/

/-- A text is looked for as the URL that it is read as, so a text that is not that of any URL is not found even
if it is asked for; and the text of a member is read as the member only if it stands for itself. -/
theorem IsNormal.contains_iff {s : UrlSet} (h : s.IsNormal) {t : List Char} :
    s.contains t = true ↔ ∃ u ∈ s.members, u.text = t ∧ u.StandsForItself := by
  have htexts : s.hasText t = true ↔ ∃ u ∈ s.members, u.text = t := hasText_iff.trans List.mem_map
  rw [contains]
  constructor
  · intro hcontains
    cases hread : Url.resolve none t with
    | error e =>
        rw [hread] at hcontains
        cases hcontains
    | ok url =>
        simp only [hread, Bool.and_eq_true, beq_iff_eq] at hcontains
        obtain ⟨u, hu, rfl⟩ := htexts.1 hcontains.2
        obtain ⟨port, hport⟩ := h u hu
        obtain ⟨hnormal, hself⟩ := hport.of_resolve_text hread
        cases hnormal.text_injective hport hcontains.1
        exact ⟨u, hu, rfl, hself⟩
  · rintro ⟨u, hu, rfl, hself⟩
    obtain ⟨port, hport⟩ := h u hu
    have hread : Url.resolve none u.text = .ok u.url := hport.resolve_text_self hself none
    have hsame : (u.url.text == u.text) = true := beq_self_eq_true u.text
    simp only [hread, hsame, Bool.true_and]
    exact htexts.2 ⟨u, hu, rfl⟩

theorem IsNormal.contains_text_iff {s : UrlSet} (h : s.IsNormal) {u : WebUrl} (hu : u ∈ s.members) :
    s.contains u.text = true ↔ u.StandsForItself := by
  rw [h.contains_iff]
  refine ⟨?_, fun hself => ⟨u, hu, rfl, hself⟩⟩
  rintro ⟨v, hv, htext, hself⟩
  rwa [← (h v hv).text_injective (h u hu) htext]

/-- A set that comes about by what the gate lets through finds the texts of the members that stand for themselves
and nothing else. So it finds exactly the texts of its members, and all that it yields, if and only if all of them
stand for themselves. Of the spellings of a member, from whatever page or none they are read, it never finds
another one than the member's own text. -/
theorem Gated.contains_iff_text {s : UrlSet} (h : s.Gated) :
    (∀ t, s.contains t = true ↔ ∃ u ∈ s.members, u.text = t ∧ u.StandsForItself)
      ∧ ((∀ t, s.contains t = true ↔ ∃ u ∈ s.members, u.text = t) ↔ ∀ u ∈ s.members, u.StandsForItself)
      ∧ ((∀ t ∈ s.texts, s.contains t = true) ↔ ∀ u ∈ s.members, u.StandsForItself)
      ∧ ∀ u ∈ s.members, ∀ page spelling, Url.resolve page spelling = .ok u.url →
        s.contains spelling = true → spelling = u.text := by
  have hnormal := h.isNormal
  refine ⟨fun _ => hnormal.contains_iff, ⟨fun hall u hu => ?_, fun hself t => ?_⟩,
    ⟨fun hall u hu => ?_, fun hself t ht => ?_⟩, fun u hu page spelling hspelling hcontains => ?_⟩
  · exact (hnormal.contains_text_iff hu).1 ((hall u.text).2 ⟨u, hu, rfl⟩)
  · rw [hnormal.contains_iff]
    exact exists_congr fun u => and_congr_right fun hu => and_iff_left (hself u hu)
  · exact (hnormal.contains_text_iff hu).1 (hall u.text (List.mem_map_of_mem hu))
  · obtain ⟨u, hu, rfl⟩ := List.mem_map.1 ht
    exact (hnormal.contains_text_iff hu).2 (hself u hu)
  · obtain ⟨v, hv, rfl, hself⟩ := hnormal.contains_iff.1 hcontains
    -- The spelling is the text of a member that is read as itself from any page.
    obtain ⟨port, hport⟩ := hnormal v hv
    have hsame : v.url = u.url := Except.ok.inj ((hport.resolve_text_self hself page).symm.trans hspelling)
    rw [WebUrl.text, hsame, WebUrl.text]

/-- The set of the link `http://[::1]/c`, which came in two spellings and is not found in a third. -/
theorem contains_iff_text_loopback :
    ∃ (s : UrlSet) (u : WebUrl), s.Gated ∧ u ∈ s.members
      ∧ Url.resolve (some loopbackPage) ['.', '.', '/', '\t', 'c'] = .ok u.url
      ∧ s.contains u.text = true ∧ s.contains ['.', '.', '/', '\t', 'c'] = false := by
  have hgated : (empty.offerAll loopbackPage [['/', 'c'], ['/', 'a', '/', '.', '.', '/', 'c']]).1.Gated :=
    .offerAll .empty read_loopbackPage _
  have hmem : (⟨{ loopbackPage with path := .segments [['c']] }, rfl⟩ : WebUrl) ∈
      (empty.offerAll loopbackPage [['/', 'c'], ['/', 'a', '/', '.', '.', '/', 'c']]).1.members :=
    List.mem_singleton.2 rfl
  have hself : (⟨{ loopbackPage with path := .segments [['c']] }, rfl⟩ : WebUrl).StandsForItself := by
    intro a ha
    cases ha
    trivial
  obtain ⟨hfound, -, -, hspellings⟩ := hgated.contains_iff_text
  refine ⟨_, _, hgated, hmem, rfl, (hfound _).2 ⟨_, hmem, rfl, hself⟩, ?_⟩
  refine Bool.eq_false_iff.2 fun hother => ?_
  exact absurd (hspellings _ hmem (some loopbackPage) ['.', '.', '/', '\t', 'c'] rfl hother) (by decide)

/-- The set of the link to a host whose digits are too many to be read does not find its only member. -/
theorem contains_iff_text_distant :
    ∃ u, normalize loopbackPage (distantCandidate []) = .ok u ∧ (empty.insertNew u).1.Gated
      ∧ (empty.insertNew u).1.members = [u] ∧ (empty.insertNew u).1.contains u.text = false := by
  obtain ⟨u, hu, hdistant⟩ := exists_normalize_distantCandidate loopbackPage []
  have hgated : (empty.insertNew u).1.Gated := .insert .empty read_loopbackPage hu
  refine ⟨u, hu, hgated, rfl, Bool.eq_false_iff.2 fun hfound => ?_⟩
  exact hdistant ((hgated.isNormal.contains_text_iff (List.mem_singleton_self u)).1 hfound)

end UrlSet

end LinkSurvey
