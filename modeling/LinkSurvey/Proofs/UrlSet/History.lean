import LinkSurvey.Proofs.Text.Utf8
import LinkSurvey.Proofs.UrlSet
import Mathlib.Data.Set.Card

/-!
Histories of a set of links. Whatever was done to a set that was empty at first, its members are the links
that were given to it, each once and in the order of their bytes; so two histories that give the same links
leave the same set. What an operation says of the growth of the set is the difference of its sizes.

Nothing here depends on how the links came about: they are told apart by their texts alone.
-/

namespace LinkSurvey.UrlSet

open Gate

/-! ### The set of texts -/

/-- The set as it is seen by comparing texts. -/
def textSet (s : UrlSet) : Finset (List Char) :=
  s.texts.toFinset

theorem sorted_texts (s : UrlSet) : s.texts.Pairwise (· < ·) :=
  List.pairwise_map.2 s.sorted

theorem nodup_texts (s : UrlSet) : s.texts.Nodup :=
  s.sorted_texts.imp fun {a b} (hlt : a < b) (heq : a = b) => List.lt_irrefl b (heq ▸ hlt)

@[simp] theorem mem_textSet {s : UrlSet} {t : List Char} : t ∈ s.textSet ↔ t ∈ s.texts :=
  List.mem_toFinset

theorem card_textSet (s : UrlSet) : s.textSet.card = s.size := by
  rw [textSet, List.toFinset_card_of_nodup s.nodup_texts, texts, List.length_map, size]

/-- Two sets with the same texts list them alike. -/
theorem texts_eq_iff {s t : UrlSet} : s.texts = t.texts ↔ ∀ text, text ∈ s.texts ↔ text ∈ t.texts := by
  constructor
  · intro h text
    rw [h]
  · exact s.sorted_texts.eq_of_mem_iff t.sorted_texts

theorem hasText_iff {s : UrlSet} {t : List Char} : s.hasText t = true ↔ t ∈ s.texts := by
  simp [hasText, texts]

/-! ### One operation -/

theorem mem_texts_insertList {u : WebUrl} {vs : List WebUrl} {t : List Char} :
    t ∈ (insertList u vs).map WebUrl.text ↔ t = u.text ∨ t ∈ vs.map WebUrl.text := by
  induction vs with
  | nil => simp [insertList]
  | cons v vs ih =>
      rw [insertList]
      split
      · rename_i htext
        rw [htext, List.map_cons, List.mem_cons, or_self_left]
      · split
        · rw [List.map_cons, List.mem_cons]
        · rw [List.map_cons, List.mem_cons, ih, List.map_cons, List.mem_cons, or_left_comm]

theorem mem_texts_insert (s : UrlSet) (u : WebUrl) (t : List Char) :
    t ∈ (s.insert u).texts ↔ t ∈ s.texts ∨ t = u.text :=
  mem_texts_insertList.trans or_comm

theorem textSet_insert (s : UrlSet) (u : WebUrl) : (s.insert u).textSet = Insert.insert u.text s.textSet := by
  ext t
  rw [mem_textSet, mem_texts_insert, Finset.mem_insert, mem_textSet, or_comm]

theorem mem_texts_offer (page : Url) (s : UrlSet) (candidate t : List Char) :
    t ∈ (s.offer page candidate).1.texts ↔
      t ∈ s.texts ∨ ∃ u, normalize page candidate = .ok u ∧ t = u.text := by
  rw [offer]
  cases hcandidate : normalize page candidate with
  | error e => simp
  | ok u =>
      simp only [insertNew, mem_texts_insert, Except.ok.injEq, exists_eq_left']

/-- What a list of steps adds to a set is what the single steps add. -/
theorem mem_texts_foldl {α : Type} {step : UrlSet → α → UrlSet} {adds : α → List Char → Prop}
    (hstep : ∀ s a t, t ∈ (step s a).texts ↔ t ∈ s.texts ∨ adds a t) (l : List α) (s : UrlSet)
    (t : List Char) : t ∈ (l.foldl step s).texts ↔ t ∈ s.texts ∨ ∃ a ∈ l, adds a t := by
  induction l generalizing s with
  | nil => simp
  | cons a l ih =>
      rw [List.foldl_cons, ih, hstep, or_assoc]
      simp only [List.mem_cons, exists_eq_or_imp]

theorem size_insertNew (s : UrlSet) (u : WebUrl) :
    (s.insertNew u).1.size = s.size + (s.insertNew u).2.toNat := by
  rw [insertNew, ← card_textSet, textSet_insert, ← card_textSet]
  cases hmem : s.hasText u.text with
  | true =>
      rw [Finset.insert_eq_of_mem (mem_textSet.2 (hasText_iff.1 hmem))]
      rfl
  | false =>
      have hnew : u.text ∉ s.textSet := by
        rw [mem_textSet, ← hasText_iff, hmem]
        exact Bool.false_ne_true
      rw [Finset.card_insert_of_notMem hnew]
      rfl

theorem size_offer (s : UrlSet) (page : Url) (candidate : List Char) :
    (s.offer page candidate).1.size = s.size + (s.offer page candidate).2.toNat := by
  rw [offer]
  cases normalize page candidate with
  | error e => rfl
  | ok u => exact s.size_insertNew u

theorem size_offerAll (s : UrlSet) (page : Url) (candidates : List (List Char)) :
    (s.offerAll page candidates).1.size = s.size + (s.offerAll page candidates).2 := by
  -- Each candidate that makes the set grow is counted once.
  refine List.foldlRecOn candidates _ (motive := fun acc : UrlSet × Nat => acc.1.size = s.size + acc.2) rfl ?_
  intro acc hacc c _
  have hsize := acc.1.size_offer page c
  cases hgrew : (acc.1.offer page c).2 with
  | true =>
      rw [hgrew, Bool.toNat_true] at hsize
      simp only [hgrew, if_true]
      omega
  | false =>
      rw [hgrew, Bool.toNat_false] at hsize
      simp only [hgrew, Bool.false_eq_true, if_false]
      omega

/-! ### Histories -/

/-- What can be done to a set. -/
inductive Operation where
  | offer (page : Url) (candidate : List Char)
  | offerAll (page : Url) (candidates : List (List Char))
  | insert (u : WebUrl)
  | union (other : UrlSet)

def Operation.apply (s : UrlSet) : Operation → UrlSet
  | .offer page candidate => (s.offer page candidate).1
  | .offerAll page candidates => (s.offerAll page candidates).1
  | .insert u => (s.insertNew u).1
  | .union other => s.union other

/-- The texts of the links that an operation gives to the set: those that its candidates stand for, if the
gate accepts them, or those of the other set. -/
inductive Operation.Gives : Operation → List Char → Prop where
  | offer {page : Url} {candidate : List Char} {u : WebUrl} (h : normalize page candidate = .ok u) :
      Gives (.offer page candidate) u.text
  | offerAll {page : Url} {candidates : List (List Char)} {candidate : List Char} {u : WebUrl}
      (hmem : candidate ∈ candidates) (h : normalize page candidate = .ok u) :
      Gives (.offerAll page candidates) u.text
  | insert (u : WebUrl) : Gives (.insert u) u.text
  | union {other : UrlSet} {u : WebUrl} (hmem : u ∈ other.members) : Gives (.union other) u.text

/-- The set after a history that started from the empty set. -/
def after (ops : List Operation) : UrlSet :=
  ops.foldl Operation.apply empty

/-- A history gives what one of its operations gives. -/
def Given (ops : List Operation) (t : List Char) : Prop :=
  ∃ op ∈ ops, op.Gives t

theorem mem_texts_apply (s : UrlSet) (op : Operation) (t : List Char) :
    t ∈ (op.apply s).texts ↔ t ∈ s.texts ∨ op.Gives t := by
  cases op with
  | offer page candidate =>
      rw [Operation.apply, mem_texts_offer]
      refine or_congr_right ⟨?_, ?_⟩
      · rintro ⟨u, hu, rfl⟩
        exact .offer hu
      · intro h
        cases h with
        | offer hu => exact ⟨_, hu, rfl⟩
  | offerAll page candidates =>
      rw [Operation.apply, offerAll_eq_foldl, mem_texts_foldl (mem_texts_offer page)]
      refine or_congr_right ⟨?_, ?_⟩
      · rintro ⟨c, hc, u, hu, rfl⟩
        exact .offerAll hc hu
      · intro h
        cases h with
        | offerAll hc hu => exact ⟨_, hc, _, hu, rfl⟩
  | insert u =>
      rw [Operation.apply, insertNew, mem_texts_insert]
      refine or_congr_right ⟨?_, ?_⟩
      · rintro rfl
        exact .insert u
      · intro h
        cases h with
        | insert => rfl
  | union other =>
      rw [Operation.apply, union, mem_texts_foldl mem_texts_insert]
      refine or_congr_right ⟨?_, ?_⟩
      · rintro ⟨u, hu, rfl⟩
        exact .union hu
      · intro h
        cases h with
        | union hu => exact ⟨_, hu, rfl⟩

theorem mem_texts_after {ops : List Operation} {t : List Char} : t ∈ (after ops).texts ↔ Given ops t := by
  rw [after, mem_texts_foldl mem_texts_apply]
  simp [texts, empty, Given]

theorem size_after (ops : List Operation) : (after ops).size = {t | Given ops t}.ncard := by
  have hset : {t | Given ops t} = ↑(after ops).textSet := by
    ext t
    rw [Finset.mem_coe, mem_textSet, mem_texts_after]
    rfl
  rw [hset, Set.ncard_coe_finset, card_textSet]

/-- After any history the members are the links that were given, once each and in the order of their bytes.
Another history leaves the same set if and only if it gives the same links, in whatever order, groups and
numbers. The next operation tells by how much it makes the set grow. -/
theorem after_history (ops : List Operation) :
    (after ops).members.Pairwise (fun u v => Text.Utf8.encode u.text < Text.Utf8.encode v.text)
      ∧ (∀ t, t ∈ (after ops).texts ↔ Given ops t)
      ∧ (after ops).size = {t | Given ops t}.ncard
      ∧ (∀ other, (after other).texts = (after ops).texts ↔ ∀ t, Given other t ↔ Given ops t)
      ∧ (∀ page candidate, ((after ops).offer page candidate).1.size
          = (after ops).size + ((after ops).offer page candidate).2.toNat)
      ∧ (∀ u, ((after ops).insertNew u).1.size = (after ops).size + ((after ops).insertNew u).2.toNat)
      ∧ (∀ page candidates, ((after ops).offerAll page candidates).1.size
          = (after ops).size + ((after ops).offerAll page candidates).2) := by
  refine ⟨?_, fun _ => mem_texts_after, size_after ops, fun other => ?_, size_offer _, size_insertNew _,
    size_offerAll _⟩
  · exact (after ops).sorted.imp Text.Utf8.encode_lt_encode
  · rw [texts_eq_iff]
    simp only [mem_texts_after]

/-- Three spellings of one link count once. -/
example : (empty.offerAll loopbackPage [['/', 'c'], ['.', '.', '/', 'c'], ['/', '%', '2', 'e', '/', 'c']]).2 = 1 := by
  decide +kernel

end LinkSurvey.UrlSet
