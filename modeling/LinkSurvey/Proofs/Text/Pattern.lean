import LinkSurvey.Text.Pattern
import Mathlib.Data.List.Basic

/-!
What a pattern finds. However the matcher comes to a match, it is a text that the parts read in turn, so where
there is no such text there is no match. Which match it comes to is up to the repetitions: one that prefers many
characters takes all it can if the rest can go on from there, and one that prefers few takes none that the rest
can go on without.
-/

namespace LinkSurvey.Text

namespace Part

variable {β : Type} {ok : Char → Bool} {next : List Char → List Char → Option β} {taken cs : List Char} {r : β}

/-- A text that a part may read. -/
structure Reads (p : Part) (text : List Char) : Prop where
  accepts : ∀ c ∈ text, p.accepts c = true
  once : p.times = .once → ∃ c, text = [c]
  atMostOnce : p.times = .atMostOnce → text = [] ∨ ∃ c, text = [c]

theorem exists_of_chooseMost (h : chooseMost ok next taken cs = some r) :
    ∃ text rest, cs = text ++ rest ∧ (∀ c ∈ text, ok c = true) ∧ next (text.reverse ++ taken) rest = some r := by
  induction cs generalizing taken with
  | nil =>
      rw [chooseMost] at h
      exact ⟨[], [], rfl, by simp, h⟩
  | cons c cs ih =>
      rw [chooseMost] at h
      split at h
      · rename_i hc
        split at h
        · rename_i hlonger
          rw [h] at hlonger
          obtain ⟨text, rest, rfl, htext, hnext⟩ := ih hlonger
          refine ⟨c :: text, rest, rfl, List.forall_mem_cons.2 ⟨hc, htext⟩, ?_⟩
          rwa [List.reverse_cons, List.append_assoc]
        · exact ⟨[], c :: cs, rfl, by simp, h⟩
      · exact ⟨[], c :: cs, rfl, by simp, h⟩

theorem exists_of_chooseFewest (h : chooseFewest ok next taken cs = some r) :
    ∃ text rest, cs = text ++ rest ∧ (∀ c ∈ text, ok c = true) ∧ next (text.reverse ++ taken) rest = some r := by
  induction cs generalizing taken with
  | nil =>
      rw [chooseFewest] at h
      exact ⟨[], [], rfl, by simp, h⟩
  | cons c cs ih =>
      rw [chooseFewest] at h
      split at h
      · rename_i hnow
        rw [h] at hnow
        exact ⟨[], c :: cs, rfl, by simp, hnow⟩
      · split at h
        · rename_i hc
          obtain ⟨text, rest, rfl, htext, hnext⟩ := ih h
          refine ⟨c :: text, rest, rfl, List.forall_mem_cons.2 ⟨hc, htext⟩, ?_⟩
          rwa [List.reverse_cons, List.append_assoc]
        · cases h

/-- Whatever a part chooses is a text that it may read, and the rest goes on after it. -/
theorem exists_of_choose {p : Part} (h : p.choose cs next = some r) :
    ∃ text rest, cs = text ++ rest ∧ p.Reads text ∧ next text.reverse rest = some r := by
  obtain ⟨accepts, times, kept⟩ := p
  cases times with
  | once =>
      cases cs with
      | nil => cases h
      | cons c rest =>
          simp only [choose] at h
          split at h
          · rename_i hc
            exact ⟨[c], rest, rfl, ⟨by simpa using hc, fun _ => ⟨c, rfl⟩, by simp⟩, h⟩
          · cases h
  | atMostOnce =>
      have hnone : (⟨accepts, .atMostOnce, kept⟩ : Part).Reads [] := ⟨by simp, by simp, fun _ => Or.inl rfl⟩
      cases cs with
      | nil => exact ⟨[], [], rfl, hnone, h⟩
      | cons c rest =>
          simp only [choose] at h
          split at h
          · rename_i hc
            split at h
            · rename_i htaken
              rw [h] at htaken
              exact ⟨[c], rest, rfl, ⟨by simpa using hc, by simp, fun _ => Or.inr ⟨c, rfl⟩⟩, htaken⟩
            · exact ⟨[], c :: rest, rfl, hnone, h⟩
          · exact ⟨[], c :: rest, rfl, hnone, h⟩
  | most =>
      obtain ⟨text, rest, hcs, htext, hnext⟩ := exists_of_chooseMost h
      rw [List.append_nil] at hnext
      exact ⟨text, rest, hcs, ⟨htext, by simp, by simp⟩, hnext⟩
  | fewest =>
      obtain ⟨text, rest, hcs, htext, hnext⟩ := exists_of_chooseFewest h
      rw [List.append_nil] at hnext
      exact ⟨text, rest, hcs, ⟨htext, by simp, by simp⟩, hnext⟩

/-- As many characters as there are, if the rest can go on after them. -/
theorem chooseMost_eq_some (h : next ((cs.takeWhile ok).reverse ++ taken) (cs.dropWhile ok) = some r) :
    chooseMost ok next taken cs = some r := by
  induction cs generalizing taken with
  | nil => exact h
  | cons c cs ih =>
      rw [chooseMost]
      by_cases hc : ok c = true
      · rw [List.takeWhile_cons_of_pos hc, List.dropWhile_cons_of_pos hc, List.reverse_cons,
          List.append_assoc] at h
        have hlonger : chooseMost ok next (c :: taken) cs = some r := ih h
        rw [if_pos hc, hlonger]
      · rw [List.takeWhile_cons_of_neg hc, List.dropWhile_cons_of_neg hc] at h
        rw [if_neg hc]
        exact h

/-- No more characters than the rest needs to have gone before it can go on. -/
theorem chooseFewest_eq_some {text rest : List Char} (htext : ∀ c ∈ text, ok c = true)
    (hshorter : ∀ front back, text = front ++ back → back ≠ [] →
      next (front.reverse ++ taken) (back ++ rest) = none)
    (h : next (text.reverse ++ taken) rest = some r) : chooseFewest ok next taken (text ++ rest) = some r := by
  induction text generalizing taken with
  | nil =>
      rw [List.reverse_nil, List.nil_append] at h
      cases rest with
      | nil => exact h
      | cons c rest => rw [List.nil_append, chooseFewest, h]
  | cons c text ih =>
      obtain ⟨hc, htext⟩ := List.forall_mem_cons.1 htext
      have hnow : next taken (c :: (text ++ rest)) = none := hshorter [] (c :: text) rfl (by simp)
      rw [List.cons_append, chooseFewest, hnow]
      simp only [hc, if_true]
      apply ih htext
      · intro front back hsplit hback
        have hlater := hshorter (c :: front) back (by rw [hsplit, List.cons_append]) hback
        rwa [List.reverse_cons, List.append_assoc] at hlater
      · rwa [List.reverse_cons, List.append_assoc] at h

end Part

namespace Pattern

/-- A text that the parts of a pattern read in turn. -/
inductive Matches : Pattern → List Char → Prop where
  | nil : Matches [] []
  | cons {p : Part} {ps : Pattern} {text rest : List Char} (h : p.Reads text) (hrest : Matches ps rest) :
      Matches (p :: ps) (text ++ rest)

variable {p ps : Pattern} {cs text after : List Char} {r : List Char × List Char}

theorem exists_of_matchFront (h : p.matchFront cs = some r) : ∃ text, cs = text ++ r.2 ∧ p.Matches text := by
  induction p generalizing cs r with
  | nil =>
      rw [matchFront] at h
      cases h
      exact ⟨[], rfl, .nil⟩
  | cons q ps ih =>
      rw [matchFront] at h
      obtain ⟨text, rest, rfl, htext, hnext⟩ := Part.exists_of_choose h
      split at hnext
      · cases hnext
      · rename_i hrest
        cases hnext
        obtain ⟨more, rfl, hmore⟩ := ih hrest
        exact ⟨text ++ more, by rw [List.append_assoc], .cons htext hmore⟩

theorem Matches.of_cons {q : Part} (h : Matches (q :: ps) text) :
    ∃ first rest, text = first ++ rest ∧ q.Reads first ∧ ps.Matches rest := by
  cases h with
  | cons hfirst hrest => exact ⟨_, _, rfl, hfirst, hrest⟩

theorem Matches.of_literal {kept : Bool} {s : String} (h : (literal kept s ++ ps).Matches text) :
    ∃ rest, text = s.toList ++ rest ∧ ps.Matches rest := by
  rw [literal] at h
  generalize s.toList = word at h ⊢
  induction word generalizing text with
  | nil => exact ⟨text, rfl, h⟩
  | cons c word ih =>
      obtain ⟨first, rest, rfl, hfirst, hrest⟩ := h.of_cons
      obtain ⟨d, rfl⟩ := hfirst.once rfl
      have hd : d = c := by simpa using hfirst.accepts d List.mem_cons_self
      obtain ⟨more, rfl, hmore⟩ := ih hrest
      exact ⟨more, by rw [hd]; rfl, hmore⟩

/-- A fixed text is read in one way only. -/
theorem matchFront_literal (kept : Bool) (s : String) (ps : Pattern) (cs : List Char) :
    matchFront (literal kept s ++ ps) (s.toList ++ cs)
      = (matchFront ps cs).map fun r => (if kept then s.toList ++ r.1 else r.1, r.2) := by
  rw [literal]
  generalize s.toList = word
  induction word with
  | nil =>
      show matchFront ps cs = _
      cases matchFront ps cs <;> simp
  | cons c word ih =>
      simp only [List.map_cons, List.cons_append, matchFront, Part.choose, beq_self_eq_true, if_true, ih]
      cases matchFront ps cs <;> cases kept <;> simp

/-! ### All matches -/

theorem findAll_cons_of_none {c : Char} (h : p.matchFront (c :: cs) = none) :
    p.findAll (c :: cs) = p.findAll cs := by
  rw [findAll.eq_def, h]

theorem findAll_of_some (h : p.matchFront cs = some (text, after)) (hless : after.length < cs.length) :
    p.findAll cs = text :: p.findAll after := by
  rw [findAll.eq_def, h]
  exact if_pos hless

end Pattern

end LinkSurvey.Text
