import LinkSurvey.Proofs.Html.Builder.Step
import LinkSurvey.Proofs.Html.Linked

/-!
What a builder makes is linked, also where it rearranges what it has made. Elements are put into places that may be
anything, so all that is asked for is that a node is there before it is put somewhere, and that it is not the document.
-/

namespace LinkSurvey.Html.Builder

variable {b b' : Builder}

theorem Moved.becomes {t t' : Tree} (h : Moved t t') : t.Becomes t' := by
  cases h with
  | detach i => exact t.becomes_detach i
  | append p h => exact Tree.becomes_append p fun _ => Tree.isPart_of_element? h
  | insertBefore sibling h => exact Tree.becomes_insertBefore sibling fun _ => Tree.isPart_of_element? h
  | moveChildren source target => exact t.becomes_moveChildren source target

theorem becomes_insert (b : Builder) (isOpen : Bool) (e : Element) : b.tree.Becomes (b.insert isOpen e).tree := by
  have hpart := Tree.isPart_of_element? (b.tree.exists_element_addElement e)
  rw [insert]
  exact (b.tree.becomes_addElement e).trans (Tree.becomes_insertAt _ fun _ => hpart)

theorem becomes_withRoot (b : Builder) (attributes : Attributes) : b.tree.Becomes (b.withRoot attributes).tree := by
  have hpart := Tree.isPart_of_element? (b.tree.exists_element_addElement { name := "html", attributes })
  rw [withRoot]
  exact (b.tree.becomes_addElement { name := "html", attributes }).trans (Tree.becomes_append Tree.root fun _ => hpart)

theorem becomes_withComment (b : Builder) (place : Build.Place) : b.tree.Becomes (b.withComment place).tree :=
  (b.tree.becomes_add .comment).trans <| Tree.becomes_insertAt place fun _ => Tree.isPart_add (by rintro ⟨⟩)

theorem becomes_addMissing (b : Builder) (i : NodeId) (attributes : Attributes) :
    b.tree.Becomes ((Build.addMissing i attributes).run b).2.tree := by
  refine Tree.becomes_update fun n _ => ?_
  obtain ⟨content, parent, children⟩ := n
  cases content with
  | element e => exact ⟨_, rfl, .element e _⟩
  | _ => exact ⟨_, rfl, .same _⟩

theorem Step.becomes (h : Step b b') : b.tree.Becomes b'.tree := by
  cases h with
  | doctype _ quirks =>
      exact (b.tree.becomes_add .doctype).trans (Tree.becomes_append _ fun _ => Tree.isPart_add (by rintro ⟨⟩))
  | root _ attributes => exact b.becomes_withRoot attributes
  | insert _ isOpen e => exact b.becomes_insert isOpen e
  | text text => exact b.tree.becomes_insertTextAt _ text
  | comment => exact b.becomes_withComment _
  | commentTo => exact b.becomes_withComment _
  | make _ e => exact b.tree.becomes_addElement e
  | move _ hmoved => exact hmoved.becomes
  | amend _ i attributes => exact b.becomes_addMissing i attributes
  | _ => exact .refl b.tree

theorem Steps.becomes (h : Steps b b') : b.tree.Becomes b'.tree := by
  induction h with
  | refl => exact .refl b.tree
  | tail _ h ih => exact ih.trans h.becomes

/-- What is made in steps from nothing is linked. -/
theorem linked_of_steps (h : Steps {} b) : b.tree.Linked :=
  Steps.becomes h |>.linked Tree.linked_empty

end LinkSurvey.Html.Builder
