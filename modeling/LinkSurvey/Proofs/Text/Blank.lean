import LinkSurvey.Text.Blank
import Mathlib.Data.List.DropRight

/-!
Trimming. What is dropped at an end of a text goes up to the first character that is not blank, so characters
behind it are not looked at, and blanks at the end that are already known go with the others. What is left has no
blanks at its ends, and a text without blanks at its ends is left as it is.
-/

namespace LinkSurvey.Text

theorem dropWhile_append_cons {p : Char → Bool} {c : Char} (hc : p c = false) (before after : List Char) :
    (before ++ c :: after).dropWhile p = before.dropWhile p ++ c :: after := by
  have hstop : (c :: after).dropWhile p = c :: after := List.dropWhile_cons_of_neg (by simp [hc])
  rw [List.dropWhile_append, hstop]
  split
  · rename_i hempty
    rw [List.isEmpty_iff.1 hempty, List.nil_append]
  · rfl

/-- Nothing but blanks. -/
def IsGap (gap : List Char) : Prop :=
  ∀ c ∈ gap, isBlank c = true

instance : DecidablePred IsGap :=
  fun gap => List.decidableBAll _ gap

theorem isGap_nil : IsGap [] :=
  nofun

theorem IsGap.not_mem {gap : List Char} (h : IsGap gap) {c : Char} (hc : isBlank c = false) : c ∉ gap := by
  intro hmem
  rw [h c hmem] at hc
  cases hc

theorem IsGap.trimStart_append {gap : List Char} (h : IsGap gap) (text : List Char) :
    trimStart (gap ++ text) = trimStart text :=
  List.dropWhile_append_of_pos h

theorem trimEnd_eq_rdropWhile (text : List Char) : trimEnd text = text.rdropWhile isBlank :=
  rfl

theorem IsGap.trimEnd_append {gap : List Char} (h : IsGap gap) (text : List Char) :
    trimEnd (text ++ gap) = trimEnd text := by
  have hback : ∀ c ∈ gap.reverse, isBlank c = true := fun c hc => h c (List.mem_reverse.1 hc)
  rw [trimEnd, trimEnd, List.reverse_append, List.dropWhile_append_of_pos hback]

/-- What is left of a text ends in a character that is not blank, and what is gone are blanks. -/
theorem exists_gap (text : List Char) :
    ∃ gap, IsGap gap ∧ text = trimEnd text ++ gap ∧ ∀ c ∈ (trimEnd text).getLast?, isBlank c = false := by
  refine ⟨text.rtakeWhile isBlank, fun c hc => List.mem_rtakeWhile_imp hc, ?_, fun c hc => ?_⟩
  · rw [trimEnd_eq_rdropWhile, List.rdropWhile_append_rtakeWhile]
  · rw [trimEnd_eq_rdropWhile] at hc
    have hne : text.rdropWhile isBlank ≠ [] := by
      intro hnil
      rw [hnil] at hc
      cases hc
    have hlast := List.rdropWhile_last_not isBlank text hne
    rw [List.getLast?_eq_some_getLast hne] at hc
    cases hc
    simpa using hlast

/-- Blanks at the end of a text are no part of what is left. -/
theorem mem_of_mem_trimEnd {text inner gap : List Char} (htext : text <:+ inner ++ gap) (hgap : IsGap gap) {c : Char}
    (hc : c ∈ trimEnd text) : c ∈ inner := by
  obtain ⟨front, hfront⟩ := htext
  rcases List.append_eq_append_iff.1 hfront with ⟨back, hinner, rfl⟩ | ⟨skipped, hskipped, hrest⟩
  · rw [hgap.trimEnd_append, trimEnd_eq_rdropWhile] at hc
    rw [hinner]
    exact List.mem_append_right front ((List.rdropWhile_prefix isBlank back).subset hc)
  · have htext : IsGap text := fun d hd => hgap d (by rw [hrest]; exact List.mem_append_right skipped hd)
    have hnil : trimEnd text = [] := htext.trimEnd_append []
    rw [hnil] at hc
    exact absurd hc List.not_mem_nil

/-! ### Trimmed texts -/

theorem trimEnd_cons {c : Char} (hc : isBlank c = false) (cs : List Char) : trimEnd (c :: cs) = c :: trimEnd cs := by
  rw [trimEnd, List.reverse_cons, dropWhile_append_cons hc]
  simp [trimEnd]

theorem trim_cons {c : Char} (hc : isBlank c = false) (cs : List Char) : trim (c :: cs) = c :: trimEnd cs := by
  have hstart : trimStart (c :: cs) = c :: cs := List.dropWhile_cons_of_neg (by simp [hc])
  rw [trim, hstart, trimEnd_cons hc]

theorem IsGap.trim {gap : List Char} (h : IsGap gap) : trim gap = [] := by
  have hstart : trimStart gap = [] := List.dropWhile_eq_nil_iff.2 h
  rw [Text.trim, hstart]
  rfl

/-- Blanks around a text go. -/
theorem IsGap.trim_append {before after : List Char} (hbefore : IsGap before) (hafter : IsGap after)
    (text : List Char) : Text.trim (before ++ text ++ after) = Text.trim text := by
  rw [Text.trim, List.append_assoc, hbefore.trimStart_append, trimStart, List.dropWhile_append]
  split
  · rename_i hblank
    have htext : IsGap text := List.dropWhile_eq_nil_iff.1 (List.isEmpty_iff.1 hblank)
    have hgone : after.dropWhile isBlank = [] := List.dropWhile_eq_nil_iff.2 hafter
    rw [hgone, htext.trim]
    rfl
  · exact hafter.trimEnd_append _

/-- A text is what is left of it with blanks around. -/
theorem exists_around (text : List Char) :
    ∃ before after, IsGap before ∧ IsGap after ∧ text = before ++ trim text ++ after := by
  obtain ⟨after, hafter, hsplit, -⟩ := exists_gap (trimStart text)
  refine ⟨text.takeWhile isBlank, after, fun c hc => List.mem_takeWhile_imp hc, hafter, ?_⟩
  have hstart : text.takeWhile isBlank ++ trimStart text = text := List.takeWhile_append_dropWhile
  rw [List.append_assoc, trim, ← hsplit, hstart]

theorem solid_head_trim (text : List Char) : ∀ c ∈ (trim text).head?, isBlank c = false := by
  intro c hc
  obtain ⟨gap, -, hsplit, -⟩ := exists_gap (trimStart text)
  have hhead : (trimStart text).head? = some c := by
    rw [hsplit, ← trim, List.head?_append, hc]
    rfl
  have hsolid := List.head?_dropWhile_not isBlank text
  rw [← trimStart, hhead] at hsolid
  simpa using hsolid

theorem solid_last_trim (text : List Char) : ∀ c ∈ (trim text).getLast?, isBlank c = false := by
  obtain ⟨gap, -, -, hlast⟩ := exists_gap (trimStart text)
  exact hlast

/-- A text without blanks at its ends is left as it is. -/
theorem trim_of_solid_ends {text : List Char} (hhead : ∀ c ∈ text.head?, isBlank c = false)
    (hlast : ∀ c ∈ text.getLast?, isBlank c = false) : trim text = text := by
  cases text with
  | nil => rfl
  | cons c cs =>
      have hc : isBlank c = false := hhead c rfl
      rw [trim_cons hc, ← trimEnd_cons hc, trimEnd_eq_rdropWhile, List.rdropWhile_eq_self_iff]
      intro hne
      simpa using hlast _ (List.getLast?_eq_some_getLast hne)

theorem trim_of_solid {cs : List Char} (h : ∀ c ∈ cs, isBlank c = false) : trim cs = cs :=
  trim_of_solid_ends (fun c hc => h c (List.mem_of_mem_head? hc)) fun c hc => h c (List.mem_of_mem_getLast? hc)

theorem trim_trim (text : List Char) : trim (trim text) = trim text :=
  trim_of_solid_ends (solid_head_trim text) (solid_last_trim text)

end LinkSurvey.Text
