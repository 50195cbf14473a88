import LinkSurvey.Proofs.Markup.Order

/-!
The scripts in the page itself. They are read twice, as text that may hold addresses and as code that is parsed, and
what is read is chosen in two places. Both come to the same texts in the same order, so the index of a planned script
is the place of its text among those that are searched. What is written inside a script that is fetched from elsewhere
is read in neither way, and changing it changes nothing.
-/

namespace LinkSurvey

open Html (Tree Element NodeId)

namespace Markup

variable {t u : Tree}

theorem text?_scripts (t : Tree) : (scripts t).filterMap Script.text? = inlineScripts t := by
  rw [scripts, inlineScripts, List.filterMap_filterMap, List.filterMap_filter]
  apply List.filterMap_congr
  rintro ⟨i, e⟩ _
  cases hsource : source? e with
  | some source => simp [hsource, Script.text?]
  | none =>
      simp only [hsource, Option.isNone_none, if_true, Option.bind_map]
      cases solidText? t i <;> rfl

theorem of_solidText?_eq_some {i : NodeId} {text : List Char} (h : solidText? t i = some text) :
    t.textOf i = text := by
  simp only [solidText?] at h
  split at h
  · cases h
  · exact Option.some.inj h

/-- Inline texts come from script elements without a source. -/
theorem exists_of_mem_inlineScripts {text : List Char} (h : text ∈ inlineScripts t) :
    ∃ x ∈ named t "script", source? x.2 = none ∧ t.textOf x.1 = text := by
  obtain ⟨x, hx, htext⟩ := List.mem_filterMap.1 h
  obtain ⟨hnamed, hsource⟩ := List.mem_filter.1 hx
  exact ⟨x, hnamed, Option.isNone_iff_eq_none.1 hsource, of_solidText?_eq_some htext⟩

/-- Elements whose text is read where they stand: styles, and scripts that do not refer to code elsewhere. -/
def IsReadInPlace (e : Element) : Prop :=
  e.name = "script" ∧ source? e = none ∨ e.name = "style"

instance (e : Element) : Decidable (IsReadInPlace e) :=
  inferInstanceAs (Decidable (_ ∨ _))

/-- Trees with the same elements, and with the same text in those that are read in place. -/
def SameInPlace (t u : Tree) : Prop :=
  List.Forall₂ (fun x y => x.2 = y.2 ∧ (IsReadInPlace x.2 → t.textOf x.1 = u.textOf y.1)) t.elements u.elements

instance (t u : Tree) : Decidable (SameInPlace t u) :=
  inferInstanceAs (Decidable (List.Forall₂ _ _ _))

namespace SameInPlace

variable (h : SameInPlace t u)
include h

/-- What is read from the elements of a name is the same if it is the same for an element and its like. -/
theorem filterMap_named {α : Type} (name : String) (read : Tree → NodeId × Element → Option α)
    (hread : ∀ i j e, e.name = name → (IsReadInPlace e → t.textOf i = u.textOf j) → read t (i, e) = read u (j, e)) :
    (named t name).filterMap (read t) = (named u name).filterMap (read u) := by
  rw [named, named, List.filterMap_filter, List.filterMap_filter]
  rw [SameInPlace] at h
  generalize t.elements = xs, u.elements = ys at h
  induction h with
  | nil => rfl
  | @cons x y xs ys hhead htail ih =>
      obtain ⟨i, e⟩ := x
      obtain ⟨j, f⟩ := y
      obtain ⟨rfl, htext⟩ : e = f ∧ _ := hhead
      rw [List.filterMap_cons, List.filterMap_cons, ih]
      by_cases hname : e.name = name
      · simp only [hname, beq_self_eq_true, if_true, hread i j e hname htext]
      · simp only [beq_eq_false_iff_ne.2 hname, Bool.false_eq_true, if_false]

theorem scripts_eq : scripts t = scripts u := by
  refine h.filterMap_named "script" script? fun i j e hname htext => ?_
  cases hsource : source? e with
  | some source => simp only [script?, hsource]
  | none => simp only [script?, hsource, solidText?, htext (.inl ⟨hname, hsource⟩)]

theorem inlineScripts_eq : inlineScripts t = inlineScripts u := by
  rw [← text?_scripts, ← text?_scripts, h.scripts_eq]

theorem styles_eq : styles t = styles u := by
  refine h.filterMap_named "style" (fun t x => solidText? t x.1) fun i j e hname htext => ?_
  simp only [solidText?, htext (.inr hname)]

theorem inlineCandidates_eq : inlineCandidates t = inlineCandidates u := by
  rw [inlineCandidates, inlineCandidates, h.inlineScripts_eq, h.styles_eq]

end SameInPlace

end Markup

namespace Survey

open Markup

theorem inline_plan (base : Url) (scripts : List Script) :
    (plan base scripts).filterMap Job.inline? = (scripts.filterMap Script.text?).zipIdx :=
  inline_planFrom base [] 0 scripts

theorem inline_plan_tree (base : Url) (t : Tree) :
    (plan base (Markup.scripts t)).filterMap Job.inline? = (inlineScripts t).zipIdx := by
  rw [inline_plan, text?_scripts]

/-- The inline scripts that are planned have the indices from 0 on, and their texts are those that the other reading
searches for addresses, in the same order; before the references in styles it finds nothing else. Each is the text of
a script element that has no source, and text that is only inside other scripts has no part in either reading. -/
theorem inline_scripts_agree (base : Url) (t : Tree) :
    (∀ scripts : List Script,
        (plan base scripts).filterMap Job.inline? = (scripts.filterMap Script.text?).zipIdx)
      ∧ (plan base (Markup.scripts t)).filterMap Job.inline? = (inlineScripts t).zipIdx
      ∧ inlineCandidates t
        = ((plan base (Markup.scripts t)).filterMap Job.inline?).flatMap (fun job => Inline.scriptAddresses job.1)
          ++ (styles t).flatMap Inline.styleReferences
      ∧ (∀ index text, .inline index text ∈ plan base (Markup.scripts t) →
          ∃ x ∈ named t "script", source? x.2 = none ∧ t.textOf x.1 = text)
      ∧ ∀ u, SameInPlace t u →
          plan base (Markup.scripts t) = plan base (Markup.scripts u) ∧ inlineCandidates t = inlineCandidates u := by
  refine ⟨inline_plan base, inline_plan_tree base t, ?_, ?_, ?_⟩
  · have htexts : (inlineScripts t).zipIdx.map Prod.fst = inlineScripts t := List.zipIdx_map_fst 0 _
    rw [inline_plan_tree, inlineCandidates, ← List.flatMap_map Prod.fst Inline.scriptAddresses, htexts]
  · intro index text hjob
    have hscript : .inline text ∈ Markup.scripts t := inline_mem_plan.1 ⟨index, hjob⟩
    apply exists_of_mem_inlineScripts
    rw [← text?_scripts]
    exact List.mem_filterMap.2 ⟨_, hscript, rfl⟩
  · intro u hsame
    rw [hsame.scripts_eq, hsame.inlineCandidates_eq]
    exact ⟨rfl, rfl⟩

/-- A script from elsewhere with this text inside, one whose source is blank, one in the page, and a style. -/
def sourcedPage (inside : List Char) : List Char :=
  "<script src=a>".toList ++ inside
    ++ "</script><script src=' '>b</script><script>'http://c'</script><style>url(d)</style>".toList

theorem inline_scripts_agree_sourced :
    SameInPlace (scan (sourcedPage "'http://e'".toList)).tree (scan (sourcedPage [])).tree
      ∧ plan Gate.loopbackPage (Markup.scripts (scan (sourcedPage "'http://e'".toList)).tree)
        = plan Gate.loopbackPage (Markup.scripts (scan (sourcedPage [])).tree)
      ∧ inlineCandidates (scan (sourcedPage "'http://e'".toList)).tree
        = inlineCandidates (scan (sourcedPage [])).tree
      ∧ inlineCandidates (scan (sourcedPage [])).tree = ["http://c'".toList, ['d']]
      ∧ (plan Gate.loopbackPage (Markup.scripts (scan (sourcedPage [])).tree)).filterMap Job.inline?
        = [(['b'], 0), ("'http://c'".toList, 1)] := by
  have hsame : SameInPlace (scan (sourcedPage "'http://e'".toList)).tree (scan (sourcedPage [])).tree := by
    decide +kernel
  obtain ⟨-, -, -, -, hother⟩ := inline_scripts_agree Gate.loopbackPage (scan (sourcedPage "'http://e'".toList)).tree
  obtain ⟨hplan, hcandidates⟩ := hother _ hsame
  obtain ⟨-, htexts, -⟩ := inline_scripts_agree Gate.loopbackPage (scan (sourcedPage [])).tree
  exact ⟨hsame, hplan, hcandidates, by decide +kernel, htexts.trans (by decide +kernel)⟩

end Survey

end LinkSurvey
