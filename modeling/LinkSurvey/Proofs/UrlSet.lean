import LinkSurvey.Proofs.Gate
import LinkSurvey.UrlSet

/-!
What is in a set of links. The set compares texts, and links that are read are told apart by their texts,
so a set of such links holds exactly those that were let through the gate.
-/

namespace LinkSurvey.UrlSet

open Gate

/-- A set of links that were read. -/
def IsNormal (s : UrlSet) : Prop :=
  ∀ u ∈ s.members, u.IsNormal

theorem isNormal_empty : empty.IsNormal :=
  fun _ h => absurd h List.not_mem_nil

theorem mem_insertList_of_mem {u w : WebUrl} {vs : List WebUrl} (h : w ∈ vs) : w ∈ insertList u vs := by
  induction vs with
  | nil => exact absurd h List.not_mem_nil
  | cons v vs ih =>
      rw [insertList]
      split
      · exact h
      · split
        · exact List.mem_cons_of_mem u h
        · rcases List.mem_cons.1 h with rfl | h
          · exact List.mem_cons_self
          · exact List.mem_cons_of_mem v (ih h)

theorem mem_insertList_self {u : WebUrl} (hu : u.IsNormal) {vs : List WebUrl} (hvs : ∀ v ∈ vs, v.IsNormal) :
    u ∈ insertList u vs := by
  induction vs with
  | nil => exact List.mem_cons_self
  | cons v vs ih =>
      obtain ⟨hv, hrest⟩ := List.forall_mem_cons.1 hvs
      rw [insertList]
      split
      · rename_i htext
        rw [hu.text_injective hv htext]
        exact List.mem_cons_self
      · split
        · exact List.mem_cons_self
        · exact List.mem_cons_of_mem v (ih hrest)

theorem mem_insert {s : UrlSet} (hs : s.IsNormal) {u w : WebUrl} (hu : u.IsNormal) :
    w ∈ (s.insert u).members ↔ w = u ∨ w ∈ s.members := by
  constructor
  · exact mem_insertList
  · rintro (rfl | h)
    · exact mem_insertList_self hu hs
    · exact mem_insertList_of_mem h

/-! ### Candidates -/

variable {page : Url} (hpage : page.Read)
include hpage

theorem mem_offer {s : UrlSet} (hs : s.IsNormal) {candidate : List Char} {u : WebUrl} :
    u ∈ (s.offer page candidate).1.members ↔ u ∈ s.members ∨ normalize page candidate = .ok u := by
  rw [offer]
  cases hcandidate : normalize page candidate with
  | error e => simp
  | ok v =>
      simp only [insertNew, Except.ok.injEq]
      rw [mem_insert hs (isNormal_of_normalize hpage hcandidate), or_comm, eq_comm]

theorem isNormal_offer {s : UrlSet} (hs : s.IsNormal) (candidate : List Char) :
    (s.offer page candidate).1.IsNormal := by
  intro u hu
  rcases (mem_offer hpage hs).1 hu with h | h
  · exact hs u h
  · exact isNormal_of_normalize hpage h

omit hpage in
theorem offerAll_eq_foldl (s : UrlSet) (page : Url) (candidates : List (List Char)) :
    (s.offerAll page candidates).1 = candidates.foldl (fun s c => (s.offer page c).1) s := by
  rw [offerAll]
  exact (List.foldl_hom Prod.fst fun _ _ => rfl).symm

theorem isNormal_offerAll {s : UrlSet} (hs : s.IsNormal) (candidates : List (List Char)) :
    (s.offerAll page candidates).1.IsNormal := by
  rw [offerAll_eq_foldl]
  induction candidates generalizing s with
  | nil => exact hs
  | cons c candidates ih => exact ih (isNormal_offer hpage hs c)

/-- Candidates add to a set the links that they stand for, and nothing else. -/
theorem mem_offerAll {s : UrlSet} (hs : s.IsNormal) {candidates : List (List Char)} {u : WebUrl} :
    u ∈ (s.offerAll page candidates).1.members ↔
      u ∈ s.members ∨ ∃ c ∈ candidates, normalize page c = .ok u := by
  rw [offerAll_eq_foldl]
  induction candidates generalizing s with
  | nil => simp
  | cons c candidates ih =>
      rw [List.foldl_cons, ih (isNormal_offer hpage hs c), mem_offer hpage hs, or_assoc]
      simp only [List.mem_cons, exists_eq_or_imp]

end LinkSurvey.UrlSet
