import LinkSurvey.Inline
import LinkSurvey.Proofs.Text.Blank
import LinkSurvey.Proofs.Text.Pattern

/-!
References in style text, in a single pass. The pattern leaves open how many blanks and which quotation marks belong
to the value, but not for long: blanks and marks are taken wherever they stand, and the value is as short as it can
be, so it ends before the first closing bracket. What comes out is the text up to there, unwrapped. Only a line feed
in the value lets a match fail, and then all other ways of reading fail on it too.
-/

namespace LinkSurvey.Inline

open Text Text.Pattern

/-! ### The single pass -/

/-- A text without the quotation mark in front of it, if there is one. -/
def dropQuote : List Char → List Char
  | [] => []
  | c :: cs => if isQuote c then cs else c :: cs

/-- A text without the quotation mark at its end, if there is one. -/
def dropQuoteEnd (text : List Char) : List Char :=
  (dropQuote text.reverse).reverse

/-- The value in the brackets of a reference: without blanks and a mark in front, then without blanks and a mark at
the end. -/
def unwrapped (body : List Char) : List Char :=
  dropQuoteEnd (trimEnd (dropQuote (trimStart body)))

def opening : List Char :=
  "url(".toList

/-- What follows the first character of the next `url(`. -/
def afterStart? : List Char → Option (List Char)
  | [] => none
  | c :: cs => if opening.isPrefixOf (c :: cs) then some cs else afterStart? cs

theorem length_afterStart? {text later : List Char} (h : afterStart? text = some later) :
    later.length < text.length := by
  induction text with
  | nil => cases h
  | cons c cs ih =>
      rw [afterStart?] at h
      split at h
      · cases h
        exact Nat.lt_succ_self _
      · exact Nat.lt_succ_of_lt (ih h)

/-- The values of all references. One that a line feed stands in is left out, and then the search goes on behind
the start of its `url(`. -/
def references (text : List Char) : List (List Char) :=
  match _hstart : afterStart? text with
  | none => []
  | some later =>
    let inside := later.drop 3
    if ')' ∈ inside then
      let value := unwrapped (inside.takeWhile (· ≠ ')'))
      if '\n' ∈ value then references later
      else value :: references ((inside.dropWhile (· ≠ ')')).drop 1)
    else []
termination_by text.length
decreasing_by
  · exact length_afterStart? _hstart
  · have hdrop := (List.dropWhile_sublist (· ≠ ')') (l := later.drop 3)).length_le
    have hlater := length_afterStart? _hstart
    simp only [List.length_drop] at hdrop ⊢
    omega

/-! ### Quotation marks -/

theorem isQuote_iff {c : Char} : isQuote c = true ↔ c = '"' ∨ c = '\'' := by
  simp [isQuote]

theorem not_isBlank_of_isQuote {c : Char} (h : isQuote c = true) : isBlank c = false := by
  rcases isQuote_iff.1 h with rfl | rfl <;> rfl

/-- One quotation mark or none. -/
def IsMark (mark : List Char) : Prop :=
  mark = [] ∨ ∃ q, isQuote q = true ∧ mark = [q]

theorem IsMark.isQuote_of_mem {mark : List Char} (h : IsMark mark) {c : Char} (hc : c ∈ mark) :
    isQuote c = true := by
  rcases h with rfl | ⟨q, hq, rfl⟩
  · exact absurd hc List.not_mem_nil
  · rwa [List.mem_singleton.1 hc]

theorem IsMark.not_mem {mark : List Char} (h : IsMark mark) {c : Char} (hc : isQuote c = false) : c ∉ mark := by
  intro hmem
  rw [h.isQuote_of_mem hmem] at hc
  cases hc

theorem dropQuote_append_gap {mark gap : List Char} (hmark : IsMark mark) (hgap : IsGap gap) :
    dropQuote (mark ++ gap) = gap := by
  rcases hmark with rfl | ⟨q, hq, rfl⟩
  · cases gap with
    | nil => rfl
    | cons c gap =>
        have hc : ¬isQuote c = true := by
          intro hquote
          have hblank := hgap c List.mem_cons_self
          rw [not_isBlank_of_isQuote hquote] at hblank
          cases hblank
        exact if_neg hc
  · exact if_pos hq

theorem dropQuote_suffix (text : List Char) : dropQuote text <:+ text := by
  cases text with
  | nil => exact List.suffix_rfl
  | cons c cs =>
      rw [dropQuote]
      split
      · exact List.suffix_cons c cs
      · exact List.suffix_rfl

theorem exists_mark (text : List Char) :
    ∃ mark, text = mark ++ dropQuote text ∧ IsMark mark ∧ (mark = [] → ∀ c ∈ text.head?, isQuote c = false) := by
  cases text with
  | nil => exact ⟨[], rfl, Or.inl rfl, by simp⟩
  | cons c cs =>
      rw [dropQuote]
      by_cases hc : isQuote c = true
      · rw [if_pos hc]
        exact ⟨[c], rfl, Or.inr ⟨c, hc, rfl⟩, by simp⟩
      · rw [if_neg hc]
        exact ⟨[], rfl, Or.inl rfl, fun _ d hd => by cases hd; simpa using hc⟩

/-- What stands neither between the blanks at the ends of a text nor is one of them is not in its value. -/
theorem not_mem_unwrapped {gap inner gap' : List Char} (hgap : IsGap gap) (hgap' : IsGap gap') {c : Char}
    (hc : c ∉ inner) : c ∉ unwrapped (gap ++ (inner ++ gap')) := by
  intro hmem
  rw [unwrapped, hgap.trimStart_append] at hmem
  have htrimmed : c ∈ trimEnd (dropQuote (trimStart (inner ++ gap'))) :=
    List.mem_reverse.1 ((dropQuote_suffix _).subset (List.mem_reverse.1 hmem))
  have hsuffix : dropQuote (trimStart (inner ++ gap')) <:+ inner ++ gap' :=
    (dropQuote_suffix _).trans (List.dropWhile_suffix isBlank)
  exact hc (mem_of_mem_trimEnd hsuffix hgap' htrimmed)

/-- A text falls into what is left of it at the end and what is dropped there. -/
theorem exists_wrapping (text : List Char) :
    ∃ mark gap, text = dropQuoteEnd (trimEnd text) ++ (mark ++ gap) ∧ IsMark mark ∧ IsGap gap
      ∧ (∀ c ∈ (dropQuoteEnd (trimEnd text) ++ mark).getLast?, isBlank c = false)
      ∧ (mark = [] → ∀ c ∈ (dropQuoteEnd (trimEnd text)).getLast?, isQuote c = false) := by
  obtain ⟨gap, hgap, htext, hlast⟩ := exists_gap text
  obtain ⟨mark, hmark, hone, hnone⟩ := exists_mark (trimEnd text).reverse
  have hback : trimEnd text = dropQuoteEnd (trimEnd text) ++ mark.reverse := by
    rw [dropQuoteEnd, ← List.reverse_append, ← hmark, List.reverse_reverse]
  have hreverse : mark.reverse = mark := by
    rcases hone with rfl | ⟨q, -, rfl⟩ <;> rfl
  rw [hreverse] at hback
  refine ⟨mark, gap, ?_, hone, hgap, ?_, fun hnil c hc => ?_⟩
  · rw [← List.append_assoc, ← hback, ← htext]
  · rwa [← hback]
  · rw [List.head?_reverse] at hnone
    rw [hnil, List.append_nil] at hback
    exact hnone hnil c (by rwa [hback])

/-! ### The pattern -/

/-- The end of a reference, after its value. -/
def closing : Pattern :=
  ⟨isQuote, .atMostOnce, false⟩ :: ⟨isBlank, .most, false⟩ :: literal false ")"

theorem referencePattern_eq :
    referencePattern = literal false "url(" ++ (⟨isBlank, .most, false⟩ :: ⟨isQuote, .atMostOnce, false⟩ ::
      ⟨(· != '\n'), .fewest, true⟩ :: closing) := by
  simp only [referencePattern, closing, List.append_assoc, List.cons_append, List.nil_append]

theorem matchFront_bracket (after : List Char) : matchFront (literal false ")") (')' :: after) = some ([], after) := by
  rfl

variable {ps : Pattern} {r : List Char × List Char}

/-- Blanks in front of a bracket are read up to the first other character. -/
theorem matchFront_blanks {text after : List Char}
    (h : matchFront ps (trimStart text ++ ')' :: after) = some r) :
    matchFront (⟨isBlank, .most, false⟩ :: ps) (text ++ ')' :: after) = some r := by
  rw [matchFront]
  apply Part.chooseMost_eq_some
  rw [dropWhile_append_cons (by decide)]
  rw [trimStart] at h
  simp only [h, Bool.false_eq_true, if_false]

theorem matchFront_quote {text after : List Char} (h : matchFront ps (dropQuote text ++ ')' :: after) = some r) :
    matchFront (⟨isQuote, .atMostOnce, false⟩ :: ps) (text ++ ')' :: after) = some r := by
  cases text with
  | nil =>
      have hbracket : isQuote ')' = false := by decide
      rw [dropQuote] at h
      simp only [matchFront, List.nil_append, Part.choose, hbracket, Bool.false_eq_true, if_false] at h ⊢
      rw [h]
  | cons c text =>
      rw [dropQuote] at h
      by_cases hc : isQuote c = true
      · rw [if_pos hc] at h
        simp only [matchFront, List.cons_append, Part.choose, hc, if_true, Bool.false_eq_true, if_false, h]
      · rw [if_neg hc] at h
        simp only [matchFront, List.cons_append, Part.choose, hc, Bool.false_eq_true, if_false] at h ⊢
        rw [h]

theorem matchFront_closing {mark gap : List Char} (hmark : IsMark mark) (hgap : IsGap gap) (after : List Char) :
    closing.matchFront (mark ++ gap ++ ')' :: after) = some ([], after) := by
  apply matchFront_quote
  rw [dropQuote_append_gap hmark hgap]
  apply matchFront_blanks
  have hnil : trimStart gap = [] := List.dropWhile_eq_nil_iff.2 hgap
  rw [hnil]
  exact matchFront_bracket after

theorem IsMark.of_reads {p : Part} {mark : List Char} (h : p.Reads mark) (htimes : p.times = .atMostOnce)
    (haccepts : p.accepts = isQuote) : IsMark mark := by
  rcases h.atMostOnce htimes with hnone | ⟨q, rfl⟩
  · exact Or.inl hnone
  · have hq := h.accepts q List.mem_cons_self
    rw [haccepts] at hq
    exact Or.inr ⟨q, hq, rfl⟩

theorem of_matches_closing {text : List Char} (h : closing.Matches text) :
    ∃ mark gap, IsMark mark ∧ IsGap gap ∧ text = mark ++ gap ++ [')'] := by
  obtain ⟨mark, _, rfl, hmark, hrest⟩ := h.of_cons
  obtain ⟨gap, _, rfl, hgap, hbracket⟩ := hrest.of_cons
  rw [← List.append_nil (literal false ")")] at hbracket
  obtain ⟨_, rfl, hend⟩ := hbracket.of_literal
  cases hend with
  | nil => exact ⟨mark, gap, .of_reads hmark rfl rfl, hgap.accepts, by simp⟩

/-- A text up to the first place of a character, and from there on. -/
theorem split_at_first {c : Char} {before : List Char} (h : c ∉ before) (after : List Char) :
    (before ++ c :: after).takeWhile (· ≠ c) = before ∧ (before ++ c :: after).dropWhile (· ≠ c) = c :: after := by
  have hbefore : ∀ d ∈ before, decide (d ≠ c) = true := by
    intro d hd
    exact decide_eq_true fun hdc => h (hdc ▸ hd)
  rw [List.takeWhile_append_of_pos hbefore, List.dropWhile_append_of_pos hbefore]
  simp

theorem eq_of_append_cons {c : Char} {before before' after after' : List Char} (h : c ∉ before) (h' : c ∉ before')
    (heq : before ++ c :: after = before' ++ c :: after') : before = before' ∧ after = after' := by
  obtain ⟨htake, hdrop⟩ := split_at_first h after
  obtain ⟨htake', hdrop'⟩ := split_at_first h' after'
  rw [heq] at htake hdrop
  exact ⟨htake.symm.trans htake', (List.cons.inj (hdrop.symm.trans hdrop')).2⟩

/-- A reference does not end as long as a part of its value is left. -/
theorem eq_nil_of_closing {back mark gap mark' gap' : List Char} (hmark' : IsMark mark') (hgap' : IsGap gap')
    (hlast : ∀ c ∈ (back ++ mark).getLast?, isBlank c = false)
    (hopen : mark = [] → ∀ c ∈ back.getLast?, isQuote c = false) (heq : back ++ (mark ++ gap) = mark' ++ gap') :
    back = [] := by
  by_contra hback
  obtain ⟨front, z, hz⟩ : ∃ front z, back ++ mark = front ++ [z] := by
    rcases List.eq_nil_or_concat (back ++ mark) with hnil | ⟨front, z, hz⟩
    · exact absurd (List.append_eq_nil_iff.1 hnil).1 hback
    · exact ⟨front, z, by rw [hz, List.concat_eq_append]⟩
  have hsolid : isBlank z = false := hlast z (by rw [hz, List.getLast?_concat]; rfl)
  rw [← List.append_assoc, hz, List.append_assoc, List.singleton_append] at heq
  rcases hmark' with rfl | ⟨q, hq, rfl⟩
  · rw [List.nil_append] at heq
    exact hgap'.not_mem hsolid (heq ▸ by simp)
  · cases front with
    | cons d front =>
        have htail : front ++ z :: gap = gap' := (List.cons.inj heq).2
        exact hgap'.not_mem hsolid (htail ▸ by simp)
    | nil =>
        have hzq : z = q := (List.cons.inj heq).1
        rcases List.append_eq_singleton_iff.1 hz with ⟨hnil, -⟩ | ⟨hone, hnone⟩
        · exact hback hnil
        · have hnot := hopen hnone z (by rw [hone]; rfl)
          rw [hzq, hq] at hnot
          cases hnot

theorem matchFront_value {value mark gap after : List Char} (hmark : IsMark mark) (hgap : IsGap gap)
    (hline : '\n' ∉ value) (hinside : ')' ∉ value ++ (mark ++ gap))
    (hlast : ∀ c ∈ (value ++ mark).getLast?, isBlank c = false)
    (hopen : mark = [] → ∀ c ∈ value.getLast?, isQuote c = false) :
    matchFront (⟨(· != '\n'), .fewest, true⟩ :: closing) (value ++ (mark ++ gap) ++ ')' :: after)
      = some (value, after) := by
  rw [matchFront, List.append_assoc]
  apply Part.chooseFewest_eq_some
  · intro c hc
    exact bne_iff_ne.2 fun hcn => hline (hcn ▸ hc)
  · intro front back hsplit hback
    cases hclose : closing.matchFront (back ++ (mark ++ gap ++ ')' :: after)) with
    | none => rfl
    | some r =>
        -- The bracket that it ends at is the first one, so what is between has no room for a part of the value.
        obtain ⟨_, htext, hmatch⟩ := exists_of_matchFront hclose
        obtain ⟨mark', gap', hmark', hgap', rfl⟩ := of_matches_closing hmatch
        have hback' : ')' ∉ back ++ (mark ++ gap) := fun hmem => hinside (by
          rw [hsplit, List.append_assoc]
          exact List.mem_append_right front hmem)
        have hend' : ')' ∉ mark' ++ gap' := by
          rw [List.mem_append, not_or]
          exact ⟨hmark'.not_mem (by decide), hgap'.not_mem (by decide)⟩
        rw [← List.append_assoc, List.append_assoc _ [')'], List.singleton_append] at htext
        obtain ⟨heq, -⟩ := eq_of_append_cons hback' hend' htext
        refine absurd (eq_nil_of_closing hmark' hgap' (fun c hc => hlast c ?_) (fun hnil c hc => hopen hnil c ?_) heq)
          hback
        · rw [hsplit, List.append_assoc, List.getLast?_append_of_ne_nil _ (by simp [hback])]
          exact hc
        · rw [hsplit, List.getLast?_append_of_ne_nil _ hback]
          exact hc
  · rw [matchFront_closing hmark hgap after]
    simp

/-- What the pattern reads, in one way or another. -/
theorem of_matchFront_reference {text : List Char} (h : referencePattern.matchFront text = some r) :
    ∃ gap mark value mark' gap', IsGap gap ∧ IsMark mark ∧ '\n' ∉ value ∧ IsMark mark' ∧ IsGap gap'
      ∧ text = opening ++ (gap ++ (mark ++ (value ++ (mark' ++ gap' ++ ')' :: r.2)))) := by
  obtain ⟨_, rfl, hmatch⟩ := exists_of_matchFront h
  rw [referencePattern_eq] at hmatch
  obtain ⟨_, rfl, hinside⟩ := hmatch.of_literal
  obtain ⟨gap, _, rfl, hgap, hmarked⟩ := hinside.of_cons
  obtain ⟨mark, _, rfl, hmark, hvalued⟩ := hmarked.of_cons
  obtain ⟨value, _, rfl, hvalue, hclosing⟩ := hvalued.of_cons
  obtain ⟨mark', gap', hmark', hgap', rfl⟩ := of_matches_closing hclosing
  refine ⟨gap, mark, value, mark', gap', hgap.accepts, .of_reads hmark rfl rfl, fun hmem => ?_, hmark', hgap', ?_⟩
  · exact absurd (hvalue.accepts '\n' hmem) (by decide)
  · simp only [opening, List.append_assoc, List.cons_append, List.nil_append]

/-- A match gives the unwrapped text up to the first bracket. -/
theorem matchFront_reference {body : List Char} (hbody : ')' ∉ body) (hline : '\n' ∉ unwrapped body)
    (after : List Char) :
    referencePattern.matchFront (opening ++ (body ++ ')' :: after)) = some (unwrapped body, after) := by
  obtain ⟨mark, gap, hsplit, hmark, hgap, hlast, hopen⟩ := exists_wrapping (dropQuote (trimStart body))
  have hinside : ')' ∉ dropQuote (trimStart body) := fun hmem =>
    hbody ((List.dropWhile_suffix isBlank).subset ((dropQuote_suffix _).subset hmem))
  have hvalue : matchFront (⟨(· != '\n'), .fewest, true⟩ :: closing)
      (unwrapped body ++ (mark ++ gap) ++ ')' :: after) = some (unwrapped body, after) := by
    apply matchFront_value hmark hgap hline _ hlast hopen
    rwa [unwrapped, ← hsplit]
  rw [unwrapped, ← hsplit, ← unwrapped] at hvalue
  rw [referencePattern_eq, opening, matchFront_literal, matchFront_blanks (matchFront_quote hvalue)]
  rfl

/-- There is none if a line feed stands in that text: it cannot be left out, and the value goes over no line. -/
theorem not_mem_of_matchFront {body after : List Char} (hbody : ')' ∉ body)
    (h : referencePattern.matchFront (opening ++ (body ++ ')' :: after)) = some r) : '\n' ∉ unwrapped body := by
  obtain ⟨gap, mark, value, mark', gap', hgap, hmark, hvalue, hmark', hgap', htext⟩ := of_matchFront_reference h
  have hinside := List.append_cancel_left htext
  have hgapped : ')' ∉ gap := hgap.not_mem (by decide)
  have hmarked : ')' ∉ mark := hmark.not_mem (by decide)
  by_cases hclosed : ')' ∈ value
  · obtain ⟨front, back, rfl, hfront⟩ := List.eq_append_cons_of_mem hclosed
    have hbefore : ')' ∉ gap ++ (mark ++ front ++ []) := by simp [hgapped, hmarked, hfront]
    have hfirst : body ++ ')' :: after = gap ++ (mark ++ front ++ []) ++ ')' ::
        (back ++ (mark' ++ gap' ++ ')' :: r.2)) := by
      simpa only [List.append_assoc, List.cons_append, List.nil_append, List.append_nil] using hinside
    rw [(eq_of_append_cons hbody hbefore hfirst).1]
    refine not_mem_unwrapped hgap (fun _ hc => absurd hc List.not_mem_nil) ?_
    rw [List.mem_append, not_or]
    exact ⟨hmark.not_mem (by decide), fun hmem => hvalue (List.mem_append_left _ hmem)⟩
  · have hbefore : ')' ∉ gap ++ (mark ++ value ++ mark' ++ gap') := by
      simp only [List.mem_append, not_or]
      exact ⟨hgapped, ⟨⟨hmarked, hclosed⟩, hmark'.not_mem (by decide)⟩, hgap'.not_mem (by decide)⟩
    have hfirst : body ++ ')' :: after = gap ++ (mark ++ value ++ mark' ++ gap') ++ ')' :: r.2 := by
      simpa only [List.append_assoc] using hinside
    rw [(eq_of_append_cons hbody hbefore hfirst).1]
    refine not_mem_unwrapped hgap hgap' ?_
    simp only [List.mem_append, not_or]
    exact ⟨⟨hmark.not_mem (by decide), hvalue⟩, hmark'.not_mem (by decide)⟩

/-! ### The references of a text -/

theorem styleReferences_nil : styleReferences [] = [] := by
  have hnone : referencePattern.matchFront [] = none := rfl
  rw [styleReferences, findAll.eq_def, hnone]

theorem styleReferences_cons_of_not {c : Char} {cs : List Char} (h : ¬opening <+: c :: cs) :
    styleReferences (c :: cs) = styleReferences cs := by
  apply findAll_cons_of_none
  apply Option.eq_none_iff_forall_ne_some.2
  intro r hmatch
  obtain ⟨_, _, _, _, _, _, _, _, _, _, htext⟩ := of_matchFront_reference hmatch
  exact h (htext ▸ List.prefix_append _ _)

theorem styleReferences_of_not_mem {text : List Char} (h : ')' ∉ text) : styleReferences text = [] := by
  induction text with
  | nil => exact styleReferences_nil
  | cons c cs ih =>
      rw [List.mem_cons, not_or] at h
      rw [← ih h.2]
      apply findAll_cons_of_none
      apply Option.eq_none_iff_forall_ne_some.2
      intro r hmatch
      obtain ⟨_, _, _, _, _, _, _, _, _, _, htext⟩ := of_matchFront_reference hmatch
      have hmem : ')' ∈ c :: cs := by simp [htext]
      exact absurd hmem (by simpa using h)

/-- A reference without a line feed is taken, and the search goes on behind it. -/
theorem styleReferences_of_line {body : List Char} (hbody : ')' ∉ body) (hline : '\n' ∉ unwrapped body)
    (after : List Char) :
    styleReferences (opening ++ (body ++ ')' :: after)) = unwrapped body :: styleReferences after := by
  apply findAll_of_some (matchFront_reference hbody hline after)
  simp only [List.length_append, List.length_cons]
  omega

/-- One with a line feed is passed by, and the search goes on behind its first character. -/
theorem styleReferences_of_lines {body : List Char} (hbody : ')' ∉ body) (hline : '\n' ∈ unwrapped body)
    (after : List Char) :
    styleReferences (opening ++ (body ++ ')' :: after)) = styleReferences (opening.tail ++ (body ++ ')' :: after)) := by
  apply findAll_cons_of_none
  apply Option.eq_none_iff_forall_ne_some.2
  intro r hmatch
  exact not_mem_of_matchFront hbody hmatch hline

theorem styleReferences_of_no_start {text : List Char} (h : afterStart? text = none) : styleReferences text = [] := by
  induction text with
  | nil => exact styleReferences_nil
  | cons c cs ih =>
      rw [afterStart?] at h
      by_cases hopens : opening.isPrefixOf (c :: cs) = true
      · rw [if_pos hopens] at h
        cases h
      · rw [if_neg hopens] at h
        rw [styleReferences_cons_of_not fun hprefix => hopens (List.isPrefixOf_iff_prefix.2 hprefix)]
        exact ih h

theorem styleReferences_of_start {text later : List Char} (h : afterStart? text = some later) :
    ∃ inside, later = opening.tail ++ inside ∧ styleReferences text = styleReferences (opening ++ inside) := by
  induction text with
  | nil => cases h
  | cons c cs ih =>
      rw [afterStart?] at h
      by_cases hopens : opening.isPrefixOf (c :: cs) = true
      · rw [if_pos hopens] at h
        cases h
        obtain ⟨inside, hinside⟩ := List.isPrefixOf_iff_prefix.1 hopens
        exact ⟨inside, (List.cons.inj hinside).2.symm, by rw [hinside]⟩
      · rw [if_neg hopens] at h
        rw [styleReferences_cons_of_not fun hprefix => hopens (List.isPrefixOf_iff_prefix.2 hprefix)]
        exact ih h

/-- A reference that is closed somewhere, in its parts. -/
theorem exists_body {text later : List Char} (h : afterStart? text = some later) (hclosed : ')' ∈ later.drop 3) :
    ∃ body after, ')' ∉ body ∧ later = opening.tail ++ (body ++ ')' :: after)
      ∧ (later.drop 3).takeWhile (· ≠ ')') = body ∧ ((later.drop 3).dropWhile (· ≠ ')')).drop 1 = after
      ∧ styleReferences text = styleReferences (opening ++ (body ++ ')' :: after)) := by
  obtain ⟨inside, rfl, htext⟩ := styleReferences_of_start h
  have hinside : (opening.tail ++ inside).drop 3 = inside := rfl
  rw [hinside] at hclosed ⊢
  obtain ⟨body, after, rfl, hbody⟩ := List.eq_append_cons_of_mem hclosed
  obtain ⟨htake, hdrop⟩ := split_at_first hbody after
  exact ⟨body, after, hbody, rfl, htake, by rw [hdrop]; rfl, htext⟩

/-- The pattern finds what a single pass finds, in every text. -/
theorem styleReferences_eq_references (text : List Char) : styleReferences text = references text := by
  fun_induction references text with
  | case1 text hstart => exact styleReferences_of_no_start hstart
  | case2 text later hstart inside hclosed value hline ih =>
      obtain ⟨body, after, hbody, hlater, htake, -, htext⟩ := exists_body hstart hclosed
      simp only [value, inside, htake] at hline
      rw [htext, styleReferences_of_lines hbody hline, ← hlater, ih]
  | case3 text later hstart inside hclosed value hline ih =>
      obtain ⟨body, after, hbody, -, htake, hdrop, htext⟩ := exists_body hstart hclosed
      simp only [value, inside, htake, hdrop] at hline ih ⊢
      rw [htext, styleReferences_of_line hbody hline, ih]
  | case4 text later hstart inside hopen =>
      obtain ⟨rest, rfl, htext⟩ := styleReferences_of_start hstart
      rw [htext]
      apply styleReferences_of_not_mem
      rw [List.mem_append, not_or]
      exact ⟨by decide, hopen⟩

end LinkSurvey.Inline
