import LinkSurvey.Gate

/-!
Sets of accepted links, in the order of their texts. Two links with the same text are one member.
-/

namespace LinkSurvey

/-- Links in strictly increasing order of their texts. -/
structure UrlSet where
  members : List WebUrl := []
  sorted : members.Pairwise (fun a b => a.text < b.text) := by simp

namespace UrlSet

theorem text_lt_trans {a b c : List Char} (hab : a < b) (hbc : b < c) : a < c :=
  List.lt_trans hab hbc

theorem text_lt_of_not {a b : List Char} (hne : a ≠ b) (h : ¬ a < b) : b < a := by
  rcases List.le_iff_lt_or_eq.1 (List.not_lt.1 h) with h' | h'
  · exact h'
  · exact absurd h'.symm hne

/-- Insert in front of the first member with a greater text. -/
def insertList (u : WebUrl) : List WebUrl → List WebUrl
  | [] => [u]
  | v :: vs =>
    if u.text = v.text then v :: vs
    else if u.text < v.text then u :: v :: vs
    else v :: insertList u vs

theorem mem_insertList {u w : WebUrl} {vs : List WebUrl} (h : w ∈ insertList u vs) :
    w = u ∨ w ∈ vs := by
  induction vs with
  | nil => simpa [insertList] using h
  | cons v vs ih =>
    simp only [insertList] at h
    split at h
    · exact .inr h
    · split at h
      · simpa using h
      · rcases List.mem_cons.1 h with rfl | h
        · simp
        · rcases ih h with h | h <;> simp [h]

theorem sorted_insertList {u : WebUrl} {vs : List WebUrl}
    (h : vs.Pairwise (fun a b => a.text < b.text)) :
    (insertList u vs).Pairwise (fun a b => a.text < b.text) := by
  induction vs with
  | nil => simp [insertList]
  | cons v vs ih =>
    have ⟨hv, hvs⟩ := List.pairwise_cons.1 h
    simp only [insertList]
    split
    · exact h
    · rename_i hne
      split
      · rename_i hlt
        refine List.pairwise_cons.2 ⟨fun w hw => ?_, h⟩
        rcases List.mem_cons.1 hw with rfl | hw
        · exact hlt
        · exact text_lt_trans hlt (hv w hw)
      · rename_i hnlt
        refine List.pairwise_cons.2 ⟨fun w hw => ?_, ih hvs⟩
        rcases mem_insertList hw with rfl | hw
        · exact text_lt_of_not hne hnlt
        · exact hv w hw

def empty : UrlSet := {}

def insert (s : UrlSet) (u : WebUrl) : UrlSet :=
  ⟨insertList u s.members, sorted_insertList s.sorted⟩

def size (s : UrlSet) : Nat :=
  s.members.length

def isEmpty (s : UrlSet) : Bool :=
  s.members.isEmpty

def texts (s : UrlSet) : List (List Char) :=
  s.members.map WebUrl.text

/-- Whether a member has this text. -/
def hasText (s : UrlSet) (text : List Char) : Bool :=
  s.members.any (·.text == text)

/-- Insert and say whether the set grew. -/
def insertNew (s : UrlSet) (u : WebUrl) : UrlSet × Bool :=
  (s.insert u, !s.hasText u.text)

/-- Let a candidate through the gate; says whether the set grew. -/
def offer (s : UrlSet) (base : Url) (candidate : List Char) : UrlSet × Bool :=
  match Gate.normalize base candidate with
  | .ok u => s.insertNew u
  | .error _ => (s, false)

/-- Let candidates through the gate one by one; counts those by which the set grew. -/
def offerAll (s : UrlSet) (base : Url) (candidates : List (List Char)) : UrlSet × Nat :=
  candidates.foldl (fun (s, n) c =>
    let (s, grew) := s.offer base c
    (s, if grew then n + 1 else n)) (s, 0)

def ofCandidates (base : Url) (candidates : List (List Char)) : UrlSet :=
  (empty.offerAll base candidates).1

/-- Merge another set into this one. -/
def union (s t : UrlSet) : UrlSet :=
  t.members.foldl insert s

/-- Whether a string is, exactly as it is written, a member. -/
def contains (s : UrlSet) (text : List Char) : Bool :=
  match Url.resolve none text with
  | .ok u => u.text == text && s.hasText text
  | .error _ => false

end UrlSet

end LinkSurvey
