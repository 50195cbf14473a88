import LinkSurvey.Markup
import LinkSurvey.Proofs.Html.Builder.Linked
import LinkSurvey.Proofs.Html.Lexer.Feeding
import LinkSurvey.Proofs.Html.Walk

/-!
The links of a page. They are looked for row by row of the table, each time among all elements that were made; an
element has one name, so all rows together find what a single walk would. A walk through the tree from the document
comes to each element below it once, however deep it stands and whatever it stands in, and those that it does not come
to but that hang from something are found as well.
-/

namespace LinkSurvey.Markup

open Html (Tree Element NodeId Document Builder)

/-- The value of the attribute by which an element refers to something, if it has the attribute. -/
def link? (e : Element) : Option (List Char) :=
  (linkAttributes.lookup e.name).bind e.attribute?

theorem linked_scan (markup : List Char) : (scan markup).tree.Linked := by
  obtain ⟨b, hsteps, hparse⟩ := Document.exists_steps markup
  have htree : (scan markup).tree = b.tree := congrArg Document.tree hparse
  rw [htree]
  exact Builder.linked_of_steps hsteps

theorem lookup_eq_none {rows : List (String × String)} {name : String} (h : name ∉ rows.map Prod.fst) :
    rows.lookup name = none := by
  refine List.lookup_eq_none_iff.2 fun row hrow => bne_iff_ne.2 ?_
  rintro rfl
  exact h (List.mem_map_of_mem hrow)

/-- Rows for different names find together what one pass finds that asks each element for the row of its name. -/
theorem flatMap_rows_perm (elements : List (NodeId × Element)) {rows : List (String × String)}
    (hrows : (rows.map Prod.fst).Nodup) :
    (rows.flatMap fun row => (elements.filter fun x => x.2.name == row.1).filterMap fun x => x.2.attribute? row.2).Perm
      (elements.filterMap fun x => (rows.lookup x.2.name).bind x.2.attribute?) := by
  induction rows with
  | nil => exact .of_eq (List.filterMap_none elements).symm
  | cons row rest ih =>
      obtain ⟨name, key⟩ := row
      obtain ⟨hnew, hrest⟩ := List.nodup_cons.1 hrows
      -- Who has the name of the first row is asked for its attribute, and for nothing by the other rows.
      have hown : ((elements.filter fun x => x.2.name == name).filterMap
            fun x => (((name, key) :: rest).lookup x.2.name).bind x.2.attribute?)
          = (elements.filter fun x => x.2.name == name).filterMap fun x => x.2.attribute? key := by
        refine List.filterMap_congr fun x hx => ?_
        rw [List.lookup_cons, (List.mem_filter.1 hx).2, Option.bind_some]
      have hother : ((elements.filter fun x => !(x.2.name == name)).filterMap
            fun x => (((name, key) :: rest).lookup x.2.name).bind x.2.attribute?)
          = elements.filterMap fun x => (rest.lookup x.2.name).bind x.2.attribute? := by
        rw [List.filterMap_filter]
        refine List.filterMap_congr fun x _ => ?_
        cases hname : x.2.name == name with
        | true =>
            rw [beq_iff_eq.1 hname, lookup_eq_none hnew]
            rfl
        | false =>
            rw [List.lookup_cons, hname]
            rfl
      have hsplit := (List.filter_append_perm (fun x => x.2.name == name) elements).filterMap
        fun x => (((name, key) :: rest).lookup x.2.name).bind x.2.attribute?
      rw [List.filterMap_append, hown, hother] at hsplit
      exact ((ih hrest).append_left _).trans hsplit

/-- The links of a page are the values that its elements refer by, with one value for each element that has the
attribute of its name: for those below the document, to which a walk comes once each, and for the loose ones. -/
theorem candidates_scan (markup : List Char) :
    (scan markup).candidates.Perm
        (((scan markup).tree.inOrder ++ (scan markup).tree.loose).filterMap fun x => link? x.2)
      ∧ (((scan markup).tree.inOrder ++ (scan markup).tree.loose).map Prod.fst).Nodup
      ∧ (∀ i e, (i, e) ∈ (scan markup).tree.inOrder ++ (scan markup).tree.loose ↔
          (scan markup).tree.element? i = some e ∧ ((scan markup).tree.parent? i).isSome)
      ∧ (∀ i e, (i, e) ∈ (scan markup).tree.inOrder ↔
          (scan markup).tree.element? i = some e ∧ (scan markup).tree.Below Tree.root i) := by
  have htree := linked_scan markup
  have helements := htree.elements_perm
  have hnames : (linkAttributes.map Prod.fst).Nodup := by decide
  refine ⟨?_, ?_, fun i e => ?_, fun i e => htree.mem_inOrder⟩
  · exact (flatMap_rows_perm (scan markup).tree.elements hnames).trans (helements.filterMap _)
  · exact (helements.map Prod.fst).nodup_iff.1 (Tree.nodup_elements _)
  · rw [← helements.mem_iff, Tree.mem_elements]

/-- A link that is still open where its end is written goes on in the paragraph, as an element of its own. -/
example : (scan "<a href=u><p></a><svg><a href=v><template><img src><script src=w>".toList).candidates
    = ["u".toList, "u".toList, "v".toList, "w".toList, []] := by
  decide +kernel

end LinkSurvey.Markup
