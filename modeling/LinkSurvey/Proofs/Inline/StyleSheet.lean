import LinkSurvey.Proofs.Inline.References

/-!
References in quotation marks, as a style sheet writes them. The marks are taken off together with the blanks around
them, and all that stands between them is the value, other marks and blanks included. But a reference ends at the
first closing bracket, also if that stands between the marks; so the values come out whole exactly if there is no such
bracket in them.
-/

namespace LinkSurvey.Inline

open Text

/-- A reference whose value stands in quotation marks, with blanks around them. -/
structure Quoted where
  quote : Char
  value : List Char
  before : List Char := []
  after : List Char := []
  isQuote_quote : isQuote quote = true := by decide
  one_line : '\n' ∉ value := by decide
  gap_before : IsGap before := by decide
  gap_after : IsGap after := by decide

namespace Quoted

variable (q : Quoted)

/-- What stands between the brackets. -/
def inside : List Char :=
  q.before ++ q.quote :: (q.value ++ q.quote :: q.after)

def text : List Char :=
  opening ++ (q.inside ++ [')'])

end Quoted

/-- A style sheet with its references, each of them with what stands up to the next one. -/
structure StyleSheet where
  front : List Char := []
  parts : List (Quoted × List Char)
  plain_front : ¬opening <:+: front := by decide
  plain_parts : ∀ part ∈ parts, ¬opening <:+: part.2

/-- The references of a style sheet as they are written, and what stands after each of them. -/
def partsText (parts : List (Quoted × List Char)) : List Char :=
  parts.flatMap fun part => part.1.text ++ part.2

namespace StyleSheet

def text (sheet : StyleSheet) : List Char :=
  sheet.front ++ partsText sheet.parts

def values (sheet : StyleSheet) : List (List Char) :=
  sheet.parts.map fun part => part.1.value

end StyleSheet

/-! ### One reference -/

theorem dropQuote_cons {c : Char} (hc : isQuote c = true) (text : List Char) : dropQuote (c :: text) = text :=
  if_pos hc

theorem dropQuoteEnd_append {c : Char} (hc : isQuote c = true) (text : List Char) :
    dropQuoteEnd (text ++ [c]) = text := by
  rw [dropQuoteEnd, List.reverse_append, List.reverse_singleton, List.singleton_append, dropQuote_cons hc,
    List.reverse_reverse]

/-- Blanks and a mark in front are dropped, and nothing after them. -/
theorem unwrapped_append_cons {gap : List Char} (hgap : IsGap gap) {c : Char} (hc : isQuote c = true)
    (text : List Char) : unwrapped (gap ++ c :: text) = dropQuoteEnd (trimEnd text) := by
  have hsolid : ¬isBlank c = true := by simp [not_isBlank_of_isQuote hc]
  have hstart : trimStart (c :: text) = c :: text := List.dropWhile_cons_of_neg hsolid
  rw [unwrapped, hgap.trimStart_append, hstart, dropQuote_cons hc]

theorem Quoted.unwrapped_inside (q : Quoted) : unwrapped q.inside = q.value := by
  have hsolid : ¬isBlank q.quote = true := by simp [not_isBlank_of_isQuote q.isQuote_quote]
  have hend : trimEnd (q.value ++ q.quote :: q.after) = q.value ++ [q.quote] := by
    rw [List.append_cons, q.gap_after.trimEnd_append, trimEnd_eq_rdropWhile]
    exact List.rdropWhile_concat_neg isBlank q.value q.quote hsolid
  rw [inside, unwrapped_append_cons q.gap_before q.isQuote_quote, hend, dropQuoteEnd_append q.isQuote_quote]

theorem length_dropQuoteEnd_trimEnd_le (text : List Char) :
    (dropQuoteEnd (trimEnd text)).length ≤ text.length := by
  obtain ⟨mark, gap, htext, -⟩ := exists_wrapping text
  have hlength := congrArg List.length htext
  simp only [List.length_append] at hlength
  omega

namespace Quoted

variable (q : Quoted) (rest : List Char)

theorem text_append : q.text ++ rest = opening ++ (q.inside ++ ')' :: rest) := by
  simp only [text, List.append_assoc, List.singleton_append]

theorem ne_quote {c : Char} (hc : isQuote c = false) : c ≠ q.quote := by
  rintro rfl
  rw [q.isQuote_quote] at hc
  cases hc

/-- A value without a closing bracket comes out whole. -/
theorem styleReferences_text (h : ')' ∉ q.value) :
    styleReferences (q.text ++ rest) = q.value :: styleReferences rest := by
  have hquote : ')' ≠ q.quote := q.ne_quote (by decide)
  have hinside : ')' ∉ q.inside := by
    simp only [inside, List.mem_append, List.mem_cons, not_or]
    exact ⟨q.gap_before.not_mem (by decide), hquote, h, hquote, q.gap_after.not_mem (by decide)⟩
  have hline : '\n' ∉ unwrapped q.inside := by
    rw [unwrapped_inside]
    exact q.one_line
  rw [text_append, styleReferences_of_line hinside hline, unwrapped_inside]

/-- Of any other value no more comes out than stands in front of its first closing bracket. -/
theorem exists_styleReferences_text (h : ')' ∈ q.value) :
    ∃ short more, styleReferences (q.text ++ rest) = short :: more ∧ short.length < q.value.length := by
  obtain ⟨front, back, hvalue, hfront⟩ := List.eq_append_cons_of_mem h
  have htext : q.text ++ rest = opening ++ (q.before ++ q.quote :: front ++ ')' ::
      (back ++ q.quote :: q.after ++ ')' :: rest)) := by
    rw [text_append, inside, hvalue]
    simp only [List.append_assoc, List.cons_append]
  have hbody : ')' ∉ q.before ++ q.quote :: front := by
    simp only [List.mem_append, List.mem_cons, not_or]
    exact ⟨q.gap_before.not_mem (by decide), q.ne_quote (by decide), hfront⟩
  have hline : '\n' ∉ unwrapped (q.before ++ (q.quote :: front ++ [])) := by
    apply not_mem_unwrapped q.gap_before (fun _ hc => absurd hc List.not_mem_nil)
    rw [List.mem_cons, not_or]
    exact ⟨q.ne_quote (by decide), fun hmem => q.one_line (by rw [hvalue]; exact List.mem_append_left _ hmem)⟩
  rw [List.append_nil] at hline
  refine ⟨unwrapped (q.before ++ q.quote :: front), _, by rw [htext, styleReferences_of_line hbody hline], ?_⟩
  rw [unwrapped_append_cons q.gap_before q.isQuote_quote, hvalue, List.length_append, List.length_cons]
  have hshort := length_dropQuoteEnd_trimEnd_le front
  omega

end Quoted

/-! ### Style sheets -/

theorem partsText_nil_or (parts : List (Quoted × List Char)) :
    partsText parts = [] ∨ ∃ more, partsText parts = opening ++ more := by
  cases parts with
  | nil => exact Or.inl rfl
  | cons part parts =>
      refine Or.inr ⟨part.1.inside ++ [')'] ++ (part.2 ++ partsText parts), ?_⟩
      simp only [partsText, List.flatMap_cons, Quoted.text, List.append_assoc]

/-- What `url(` starts with does not come again in it, so it does not start in front of another one. -/
theorem not_opening_prefix {plain rest : List Char} (hne : plain ≠ []) (hplain : ¬opening <+: plain)
    (hrest : rest = [] ∨ ∃ more, rest = opening ++ more) : ¬opening <+: plain ++ rest := by
  intro hprefix
  rcases List.prefix_or_prefix_of_prefix hprefix (List.prefix_append plain rest) with h | ⟨back, hback⟩
  · exact hplain h
  rw [← hback, List.prefix_append_right_inj] at hprefix
  cases back with
  | nil =>
      rw [List.append_nil] at hback
      exact hplain (hback ▸ List.prefix_rfl)
  | cons d back =>
      obtain ⟨c, plain, rfl⟩ := List.exists_cons_of_ne_nil hne
      have hd : d ∈ opening.tail := by
        rw [← hback]
        simp
      rcases hrest with rfl | ⟨more, rfl⟩
      · exact absurd (List.prefix_nil.1 hprefix) (List.cons_ne_nil d back)
      · have hu : d = 'u' := (List.cons_prefix_cons.1 hprefix).1
        rw [hu] at hd
        exact absurd hd (by decide)

theorem styleReferences_append_plain {plain rest : List Char} (hplain : ¬opening <:+: plain)
    (hrest : rest = [] ∨ ∃ more, rest = opening ++ more) : styleReferences (plain ++ rest) = styleReferences rest := by
  induction plain with
  | nil => rfl
  | cons c plain ih =>
      have hstart : ¬opening <+: c :: plain ++ rest :=
        not_opening_prefix (List.cons_ne_nil c plain) (fun h => hplain h.isInfix) hrest
      rw [List.cons_append] at hstart ⊢
      rw [styleReferences_cons_of_not hstart]
      exact ih fun h => hplain (List.infix_cons h)

theorem styleReferences_partsText_iff {parts : List (Quoted × List Char)}
    (hplain : ∀ part ∈ parts, ¬opening <:+: part.2) :
    styleReferences (partsText parts) = parts.map (fun part => part.1.value) ↔
      ∀ part ∈ parts, ')' ∉ part.1.value := by
  induction parts with
  | nil => simp [partsText, styleReferences_nil]
  | cons part parts ih =>
      obtain ⟨q, between⟩ := part
      obtain ⟨hbetween, hparts⟩ := List.forall_mem_cons.1 hplain
      have htext : partsText ((q, between) :: parts) = q.text ++ (between ++ partsText parts) := by
        rw [partsText, List.flatMap_cons, List.append_assoc, partsText]
      rw [htext, List.map_cons, List.forall_mem_cons, ← ih hparts]
      by_cases hclosed : ')' ∈ q.value
      · obtain ⟨short, more, hshort, hlength⟩ := q.exists_styleReferences_text (between ++ partsText parts) hclosed
        rw [hshort]
        constructor
        · intro heq
          rw [(List.cons.inj heq).1] at hlength
          exact absurd hlength (Nat.lt_irrefl _)
        · rintro ⟨hopen, -⟩
          exact absurd hclosed hopen
      · rw [q.styleReferences_text _ hclosed, styleReferences_append_plain hbetween (partsText_nil_or parts),
          List.cons.injEq]
        simp [hclosed]

/-- The values of a style sheet come out whole, each of them and in order, exactly if there is no closing bracket in
any of them. -/
theorem StyleSheet.styleReferences_eq_values_iff (sheet : StyleSheet) :
    styleReferences sheet.text = sheet.values ↔ ∀ value ∈ sheet.values, ')' ∉ value := by
  rw [text, styleReferences_append_plain sheet.plain_front (partsText_nil_or sheet.parts), values,
    styleReferences_partsText_iff sheet.plain_parts, List.forall_mem_map]

/-- The style sheet `url("a)b")`. -/
def bracketSheet : StyleSheet where
  parts := [({ quote := '"', value := ['a', ')', 'b'] }, [])]
  plain_parts := by decide

/-- A closing bracket in quotation marks cuts its value off, though a value may hold it: it is neither the mark nor a
backslash nor a line break. -/
theorem styleReferences_bracketSheet :
    bracketSheet.text = ['u', 'r', 'l', '(', '"', 'a', ')', 'b', '"', ')']
      ∧ bracketSheet.values = [['a', ')', 'b']]
      ∧ (∀ part ∈ bracketSheet.parts, ∀ c ∈ part.1.value, c ∉ [part.1.quote, '\\', '\n', '\r', '\x0c'])
      ∧ styleReferences bracketSheet.text = [['a']]
      ∧ styleReferences bracketSheet.text ≠ bracketSheet.values := by
  have hcut : styleReferences bracketSheet.text = [['a']] := by decide +kernel
  refine ⟨rfl, rfl, by simp [bracketSheet], hcut, ?_⟩
  rw [hcut]
  decide

end LinkSurvey.Inline
