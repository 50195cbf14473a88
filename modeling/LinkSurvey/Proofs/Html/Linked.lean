import LinkSurvey.Html.Builder.State
import LinkSurvey.Proofs.Html.Order
import Mathlib.Data.List.Perm.Basic
import Mathlib.Data.List.TakeDrop

/-!
How the nodes of a tree are linked. Whatever is done to a tree, a child names the node that it hangs from as its
parent, no node hangs from another one twice, and the document hangs from nothing. Nodes may be moved and taken out, and
those that are out may even hang from each other in a ring; but they never cease to be what they are.
-/

namespace LinkSurvey.Html

/-- What a node becomes: text gets longer, and an element gets attributes. -/
inductive Content.Becomes : Content → Content → Prop where
  | same (content : Content) : Becomes content content
  | text (old new : Text) : Becomes (.text old) (.text new)
  | element (old new : Element) : Becomes (.element old) (.element new)

namespace Content.Becomes

variable {a b c : Content}

theorem trans (h : a.Becomes b) (h' : b.Becomes c) : a.Becomes c := by
  cases h with
  | same => exact h'
  | text old new =>
      cases h' with
      | same => exact .text old new
      | text _ last => exact .text old last
  | element old new =>
      cases h' with
      | same => exact .element old new
      | element _ last => exact .element old last

theorem document_iff (h : a.Becomes b) : a = .document ↔ b = .document := by
  cases h with
  | same => exact Iff.rfl
  | _ => exact ⟨nofun, nofun⟩

theorem exists_element {e : Element} (h : a.Becomes b) (ha : a = .element e) : ∃ e', b = .element e' := by
  subst ha
  cases h with
  | same => exact ⟨e, rfl⟩
  | element _ new => exact ⟨new, rfl⟩

end Content.Becomes

namespace Tree

/-- A node that can hang from another one. -/
def IsPart (t : Tree) (i : NodeId) : Prop :=
  ∃ n, t.node? i = some n ∧ n.content ≠ .document

/-- Parents and children agree, and the document has no parent. -/
structure Linked (t : Tree) : Prop where
  root_eq : ∃ n, t.node? root = some n ∧ n.content = .document
  parent?_root : t.parent? root = none
  isPart : ∀ {p c : Nat}, c ∈ t.children p → t.IsPart c
  parent?_eq : ∀ {p c : Nat}, c ∈ t.children p → t.parent? c = some p
  nodup : ∀ p, (t.children p).Nodup

/-- Nodes stay what they are. -/
structure Keeps (t t' : Tree) : Prop where
  exists_node : ∀ {i : NodeId} {n : Node}, t.node? i = some n →
    ∃ n', t'.node? i = some n' ∧ n.content.Becomes n'.content

/-- A tree is changed: nodes stay what they are, and links in order. -/
structure Becomes (t t' : Tree) : Prop extends t.Keeps t' where
  linked : t.Linked → t'.Linked

variable {t t' t'' : Tree} {i j p c : Nat}

theorem Keeps.trans (h : t.Keeps t') (h' : t'.Keeps t'') : t.Keeps t'' := by
  refine ⟨fun hnode => ?_⟩
  obtain ⟨n', hnode', hcontent⟩ := h.exists_node hnode
  obtain ⟨n'', hnode'', hcontent'⟩ := h'.exists_node hnode'
  exact ⟨n'', hnode'', hcontent.trans hcontent'⟩

theorem Keeps.isPart (h : t.Keeps t') (hi : t.IsPart i) : t'.IsPart i := by
  obtain ⟨n, hnode, hpart⟩ := hi
  obtain ⟨n', hnode', hcontent⟩ := h.exists_node hnode
  exact ⟨n', hnode', mt hcontent.document_iff.2 hpart⟩

theorem Keeps.exists_element (h : t.Keeps t') (hi : ∃ e, t.element? i = some e) : ∃ e, t'.element? i = some e := by
  obtain ⟨e, helement⟩ := hi
  obtain ⟨n, hnode, hcontent⟩ := element?_eq_some.1 helement
  obtain ⟨n', hnode', hbecomes⟩ := h.exists_node hnode
  obtain ⟨e', hcontent'⟩ := hbecomes.exists_element hcontent
  exact ⟨e', element?_eq_some.2 ⟨n', hnode', hcontent'⟩⟩

theorem Becomes.refl (t : Tree) : t.Becomes t :=
  ⟨⟨fun hnode => ⟨_, hnode, .same _⟩⟩, id⟩

theorem Becomes.trans (h : t.Becomes t') (h' : t'.Becomes t'') : t.Becomes t'' :=
  ⟨h.toKeeps.trans h'.toKeeps, h'.linked ∘ h.linked⟩

theorem isPart_of_element? (h : ∃ e, t.element? i = some e) : t.IsPart i := by
  obtain ⟨e, helement⟩ := h
  obtain ⟨n, hnode, hcontent⟩ := element?_eq_some.1 helement
  exact ⟨n, hnode, by rw [hcontent]; exact nofun⟩

theorem IsPart.ne_root (ht : t.Linked) (h : t.IsPart i) : i ≠ root := by
  rintro rfl
  obtain ⟨n, hnode, hpart⟩ := h
  obtain ⟨n', hnode', hdocument⟩ := ht.root_eq
  obtain rfl : n = n' := Option.some.inj (hnode.symm.trans hnode')
  exact hpart hdocument

/-! ### Changes that leave the links alone -/

/-- A change after which every node has the parent and the children that it had. -/
theorem becomes_of_same (hkeeps : t.Keeps t') (hchildren : ∀ j, t'.children j = t.children j)
    (hparent : ∀ j, t'.parent? j = t.parent? j) : t.Becomes t' := by
  refine ⟨hkeeps, fun ht => ⟨?_, ?_, fun hc => ?_, fun hc => ?_, fun p => ?_⟩⟩
  · obtain ⟨n, hnode, hdocument⟩ := ht.root_eq
    obtain ⟨n', hnode', hcontent⟩ := hkeeps.exists_node hnode
    exact ⟨n', hnode', hcontent.document_iff.1 hdocument⟩
  · rw [hparent, ht.parent?_root]
  · rw [hchildren] at hc
    exact hkeeps.isPart (ht.isPart hc)
  · rw [hchildren] at hc
    rw [hparent, ht.parent?_eq hc]
  · rw [hchildren]
    exact ht.nodup p

/-- A node that is filled anew where it is. -/
theorem becomes_update {g : Node → Node}
    (hg : ∀ n, t.node? i = some n → ∃ content, g n = { n with content } ∧ n.content.Becomes content) :
    t.Becomes (t.update i g) := by
  have hnode : ∀ j, (t.update i g).node? j = t.node? j ∨ ∃ n content, t.node? j = some n
      ∧ (t.update i g).node? j = some { n with content } ∧ n.content.Becomes content := by
    intro j
    rw [node?_update]
    split_ifs with hij
    · subst hij
      cases hi : t.node? i with
      | none => exact .inl rfl
      | some n =>
          obtain ⟨content, hcontent, hbecomes⟩ := hg n hi
          exact .inr ⟨n, content, rfl, by rw [Option.map_some, hcontent], hbecomes⟩
    · exact .inl rfl
  refine becomes_of_same ⟨fun {j n} hn => ?_⟩ (fun j => ?_) fun j => ?_
  · rcases hnode j with hsame | ⟨n', content, hn', hnew, hbecomes⟩
    · exact ⟨n, hsame.trans hn, .same _⟩
    · obtain rfl : n = n' := Option.some.inj (hn.symm.trans hn')
      exact ⟨_, hnew, hbecomes⟩
  · rcases hnode j with hsame | ⟨n', content, hn', hnew, -⟩
    · rw [children, children, hsame]
    · rw [children_eq hn', children_eq hnew]
  · rcases hnode j with hsame | ⟨n', content, hn', hnew, -⟩
    · rw [parent?, parent?, hsame]
    · rw [parent?, parent?, hn', hnew]
      rfl

theorem node?_size (t : Tree) : t.node? t.nodes.size = none :=
  Array.getElem?_eq_none (Nat.le_refl _)

theorem becomes_add (t : Tree) (content : Content) : t.Becomes (t.add content).1 := by
  refine becomes_of_same ⟨fun {j n} hn => ⟨n, ?_, .same _⟩⟩ (fun j => ?_) fun j => ?_
  · rw [node?_add, if_neg (Nat.ne_of_lt (lt_size_of_node? hn)), hn]
  · rw [children, children, node?_add]
    split_ifs with hj
    · rw [hj, node?_size]
      rfl
    · rfl
  · rw [parent?, parent?, node?_add]
    split_ifs with hj
    · rw [hj, node?_size]
      rfl
    · rfl

theorem isPart_add {content : Content} (hcontent : content ≠ .document) : (t.add content).1.IsPart t.nodes.size :=
  ⟨{ content }, by rw [node?_add, if_pos rfl], hcontent⟩

theorem parent?_add_self (t : Tree) (content : Content) : (t.add content).1.parent? t.nodes.size = none := by
  rw [parent?, node?_add, if_pos rfl]
  rfl

/-! ### Nodes that are taken out and put in -/

/-- Links that are made anew: it is enough that they are in order where they were in order before. -/
theorem becomes_of_links {f : NodeId → Option NodeId → Option NodeId} {g : NodeId → List NodeId → List NodeId}
    (hnode : ∀ j, t'.node? j = (t.node? j).map fun n => { n with parent := f j n.parent, children := g j n.children })
    (hroot : t.Linked → f root none = none)
    (hchild : t.Linked → ∀ q c, c ∈ g q (t.children q) → t.IsPart c ∧ f c (t.parent? c) = some q)
    (hnodup : t.Linked → ∀ q, (g q (t.children q)).Nodup) : t.Becomes t' := by
  have hkeeps : ∀ {j : NodeId} {n : Node}, t.node? j = some n →
      t'.node? j = some { n with parent := f j n.parent, children := g j n.children } := by
    intro j n hn
    rw [hnode, hn]
    rfl
  have hchildren : ∀ q, t'.children q = [] ∨ t'.children q = g q (t.children q) := by
    intro q
    cases hn : t.node? q with
    | none => exact .inl (by rw [children, hnode, hn]; rfl)
    | some n => exact .inr (by rw [children_eq (hkeeps hn), children_eq hn])
  have hmem : ∀ {q c : Nat}, c ∈ t'.children q → c ∈ g q (t.children q) := by
    intro q c hc
    rcases hchildren q with hnone | hsome
    · rw [hnone] at hc
      cases hc
    · rwa [hsome] at hc
  refine ⟨⟨fun hn => ⟨_, hkeeps hn, .same _⟩⟩, fun ht => ⟨?_, ?_, fun hc => ?_, fun hc => ?_, fun q => ?_⟩⟩
  · obtain ⟨n, hn, hdocument⟩ := ht.root_eq
    exact ⟨_, hkeeps hn, hdocument⟩
  · obtain ⟨n, hn, -⟩ := ht.root_eq
    have hno : n.parent = none := by
      have hparent := ht.parent?_root
      rwa [parent?, hn] at hparent
    rw [parent?, hkeeps hn, hno, hroot ht]
    rfl
  · obtain ⟨n, hn, hpart⟩ := (hchild ht _ _ (hmem hc)).1
    exact ⟨_, hkeeps hn, hpart⟩
  · obtain ⟨⟨n, hn, -⟩, hparent⟩ := hchild ht _ _ (hmem hc)
    rw [parent?, hn] at hparent
    rw [parent?, hkeeps hn]
    exact hparent
  · rcases hchildren q with hnone | hsome
    · rw [hnone]
      exact List.nodup_nil
    · rw [hsome]
      exact hnodup ht q

theorem node?_detach (hp : t.parent? i = some p) (j : NodeId) : (t.detach i).node? j = (t.node? j).map fun n =>
    { n with
      parent := if i = j then none else n.parent
      children := if p = j then n.children.erase i else n.children } := by
  rw [detach, hp]
  simp only [node?_update]
  split_ifs <;> cases t.node? j <;> rfl

theorem detach_eq_self (hi : t.parent? i = none) : t.detach i = t := by
  rw [detach, hi]

theorem parent?_detach_self (t : Tree) (i : NodeId) : (t.detach i).parent? i = none := by
  cases hp : t.parent? i with
  | none => rw [detach_eq_self hp, hp]
  | some p =>
      rw [parent?, node?_detach hp]
      cases t.node? i with
      | none => rfl
      | some n => exact if_pos rfl

theorem becomes_detach (t : Tree) (i : NodeId) : t.Becomes (t.detach i) := by
  cases hp : t.parent? i with
  | none =>
      rw [detach_eq_self hp]
      exact .refl t
  | some p =>
      refine becomes_of_links (f := fun j parent => if i = j then none else parent)
        (g := fun j children => if p = j then children.erase i else children) (node?_detach hp) (fun _ => ite_self _)
        (fun ht q c hc => ?_) fun ht q => ?_
      · have hold : c ∈ t.children q ∧ i ≠ c := by
          split_ifs at hc with hq
          · refine ⟨List.mem_of_mem_erase hc, ?_⟩
            rintro rfl
            exact (ht.nodup q).not_mem_erase hc
          · refine ⟨hc, ?_⟩
            rintro rfl
            exact hq (Option.some.inj (hp.symm.trans (ht.parent?_eq hc)))
        exact ⟨ht.isPart hold.1, (if_neg hold.2).trans (ht.parent?_eq hold.1)⟩
      · split_ifs
        · exact (ht.nodup q).erase i
        · exact ht.nodup q

/-- Put a node among the children of another one. -/
def attach (t : Tree) (p i : NodeId) (place : List NodeId → List NodeId) : Tree :=
  (t.update i fun n => { n with parent := some p }).update p fun n => { n with children := place n.children }

theorem node?_attach (place : List NodeId → List NodeId) (j : NodeId) :
    (t.attach p i place).node? j = (t.node? j).map fun n =>
      { n with
        parent := if i = j then some p else n.parent
        children := if p = j then place n.children else n.children } := by
  rw [attach]
  simp only [node?_update]
  split_ifs <;> cases t.node? j <;> rfl

/-- A node that hangs from nothing may be put anywhere. -/
theorem becomes_attach (place : List NodeId → List NodeId) (hpart : t.Linked → t.IsPart i)
    (hparent : t.parent? i = none) (hplace : (place (t.children p)).Perm (i :: t.children p)) :
    t.Becomes (t.attach p i place) := by
  refine becomes_of_links (f := fun j parent => if i = j then some p else parent)
    (g := fun j children => if p = j then place children else children) (node?_attach place)
    (fun ht => if_neg ((hpart ht).ne_root ht)) (fun ht q c hc => ?_) fun ht q => ?_
  · have hnew : c ∈ t.children q ∨ p = q ∧ c = i := by
      split_ifs at hc with hq
      · subst hq
        exact (List.mem_cons.1 (hplace.mem_iff.1 hc)).symm.imp_right fun h => ⟨rfl, h⟩
      · exact .inl hc
    rcases hnew with hold | ⟨rfl, rfl⟩
    · have hother : i ≠ c := by
        rintro rfl
        rw [ht.parent?_eq hold] at hparent
        cases hparent
      exact ⟨ht.isPart hold, (if_neg hother).trans (ht.parent?_eq hold)⟩
    · exact ⟨hpart ht, if_pos rfl⟩
  · split_ifs with hq
    · subst hq
      refine hplace.nodup_iff.2 (List.nodup_cons.2 ⟨fun hc => ?_, ht.nodup p⟩)
      rw [ht.parent?_eq hc] at hparent
      cases hparent
    · exact ht.nodup q

theorem keeps_attach (t : Tree) (p i : NodeId) (place : List NodeId → List NodeId) : t.Keeps (t.attach p i place) := by
  refine ⟨fun {j n} hn => ⟨{ n with
    parent := if i = j then some p else n.parent
    children := if p = j then place n.children else n.children }, ?_, .same _⟩⟩
  rw [node?_attach, hn]
  rfl

/-- A node may be taken from where it hangs and put anywhere. -/
theorem becomes_detach_attach (place : List NodeId → List NodeId) (hpart : t.Linked → t.IsPart i)
    (hplace : ∀ l, (place l).Perm (i :: l)) : t.Becomes ((t.detach i).attach p i place) := by
  have hdetach := becomes_detach t i
  refine ⟨hdetach.toKeeps.trans (keeps_attach _ p i place), fun ht => ?_⟩
  have hattach := becomes_attach (p := p) place (fun _ => hdetach.toKeeps.isPart (hpart ht)) (parent?_detach_self t i)
    (hplace _)
  exact hattach.linked (hdetach.linked ht)

theorem becomes_append (p : NodeId) (hpart : t.Linked → t.IsPart i) : t.Becomes (t.append p i) :=
  becomes_detach_attach (· ++ [i]) hpart fun l => List.perm_append_singleton i l

theorem becomes_insertBefore (sibling : NodeId) (hpart : t.Linked → t.IsPart i) :
    t.Becomes (t.insertBefore sibling i) := by
  rw [insertBefore]
  dsimp only
  cases hparent : (t.detach i).parent? sibling with
  | none => exact becomes_detach t i
  | some p =>
      refine becomes_detach_attach (fun l => (l.span (· != sibling)).1 ++ i :: (l.span (· != sibling)).2) hpart
        fun l => ?_
      rw [List.span_eq_takeWhile_dropWhile]
      exact List.perm_middle.trans (by rw [List.takeWhile_append_dropWhile])

/-- A new element hangs from nothing, and in a template its fragment hangs from it. -/
theorem addElement_cases (t : Tree) (e : Element) :
    t.addElement e = ((t.add (.element e)).1, t.nodes.size)
      ∨ t.addElement e = (((t.add (.element e)).1.add .fragment).1.attach t.nodes.size (t.nodes.size + 1)
          fun _ => [t.nodes.size + 1], t.nodes.size) := by
  have hsize : (t.add (.element e)).1.nodes.size = t.nodes.size + 1 := Array.size_push ..
  rw [addElement]
  dsimp only
  split
  · right
    rw [← hsize]
    rfl
  · exact .inl rfl

theorem becomes_addElement (t : Tree) (e : Element) : t.Becomes (t.addElement e).1 := by
  have hsize : (t.add (.element e)).1.nodes.size = t.nodes.size + 1 := Array.size_push ..
  have hadd := becomes_add t (.element e)
  rcases t.addElement_cases e with hplain | htemplate
  · rw [hplain]
    exact hadd
  · have hbare : ((t.add (.element e)).1.add .fragment).1.children t.nodes.size = [] := by
      rw [children, node?_add, hsize, if_neg (Nat.ne_of_lt (Nat.lt_succ_self _)), node?_add, if_pos rfl]
      rfl
    have hpart : ((t.add (.element e)).1.add .fragment).1.IsPart (t.add (.element e)).1.nodes.size :=
      isPart_add (by rintro ⟨⟩)
    have hparent := parent?_add_self (t.add (.element e)).1 .fragment
    rw [hsize] at hpart hparent
    rw [htemplate]
    refine (hadd.trans (becomes_add _ .fragment)).trans
      (becomes_attach (fun _ => [t.nodes.size + 1]) (fun _ => hpart) hparent ?_)
    rw [hbare]

theorem exists_element_addElement (t : Tree) (e : Element) :
    ∃ e', (t.addElement e).1.element? (t.addElement e).2 = some e' := by
  have hnew : ∃ e', (t.add (.element e)).1.element? t.nodes.size = some e' :=
    ⟨e, element?_eq_some.2 ⟨{ content := .element e }, by rw [node?_add, if_pos rfl], rfl⟩⟩
  rcases t.addElement_cases e with hplain | htemplate
  · rw [hplain]
    exact hnew
  · rw [htemplate]
    exact ((becomes_add _ .fragment).toKeeps.trans (keeps_attach _ _ _ _)).exists_element hnew

/-! ### Children, text and places -/

theorem keeps_append (t : Tree) (p i : NodeId) : t.Keeps (t.append p i) :=
  (becomes_detach t i).toKeeps.trans (keeps_attach _ p i (· ++ [i]))

theorem keeps_appendAll (t : Tree) (target : NodeId) (moved : List NodeId) :
    t.Keeps (moved.foldl (fun t i => t.append target i) t) := by
  induction moved generalizing t with
  | nil => exact (Becomes.refl t).toKeeps
  | cons i rest ih => exact (keeps_append t target i).trans (ih _)

theorem Linked.appendAll (ht : t.Linked) (target : NodeId) {moved : List NodeId} (hparts : ∀ c ∈ moved, t.IsPart c) :
    (moved.foldl (fun t i => t.append target i) t).Linked := by
  induction moved generalizing t with
  | nil => exact ht
  | cons i rest ih =>
      have happend := becomes_append target fun _ => hparts i List.mem_cons_self
      exact ih (happend.linked ht) fun c hc => happend.toKeeps.isPart (hparts c (List.mem_cons_of_mem i hc))

theorem becomes_moveChildren (t : Tree) (source target : NodeId) : t.Becomes (t.moveChildren source target) :=
  ⟨keeps_appendAll t target _, fun ht => ht.appendAll target fun _ hc => ht.isPart hc⟩

theorem becomes_extendText {last : Option NodeId} {text : Text} (h : t.extendText last text = some t') :
    t.Becomes t' := by
  rw [extendText.eq_def] at h
  split at h
  · cases h
  · split at h
    next i _ old _ _ hnode =>
      obtain rfl := Option.some.inj h
      refine becomes_update fun n hn => ⟨_, rfl, ?_⟩
      obtain rfl := Option.some.inj (hnode.symm.trans hn)
      exact .text _ _
    · cases h

theorem becomes_appendText (t : Tree) (p : NodeId) (text : Text) : t.Becomes (t.appendText p text) := by
  rw [appendText]
  split
  next hextend => exact becomes_extendText hextend
  next => exact (becomes_add t (.text text)).trans (becomes_append p fun _ => isPart_add (by rintro ⟨⟩))

theorem becomes_insertTextBefore (t : Tree) (sibling : NodeId) (text : Text) :
    t.Becomes (t.insertTextBefore sibling text) := by
  rw [insertTextBefore]
  split
  next => exact .refl t
  next =>
    split
    next hextend => exact becomes_extendText hextend
    next => exact (becomes_add t (.text text)).trans (becomes_insertBefore sibling fun _ => isPart_add (by rintro ⟨⟩))

theorem becomes_insertAt (place : Build.Place) (hpart : t.Linked → t.IsPart i) :
    t.Becomes (Build.insertAt t place i) := by
  cases place with
  | lastChild p => exact becomes_append p hpart
  | besideTable table outer =>
      rw [Build.insertAt]
      split
      · exact becomes_insertBefore table hpart
      · exact becomes_append outer hpart

theorem becomes_insertTextAt (t : Tree) (place : Build.Place) (text : Text) :
    t.Becomes (Build.insertTextAt t place text) := by
  cases place with
  | lastChild p => exact becomes_appendText t p text
  | besideTable table outer =>
      rw [Build.insertTextAt]
      split
      · exact becomes_insertTextBefore t table text
      · exact becomes_appendText t outer text

theorem linked_empty : Linked {} := by
  refine ⟨⟨_, rfl, rfl⟩, rfl, fun hc => absurd hc not_mem_children_empty, fun hc => absurd hc not_mem_children_empty,
    fun p => ?_⟩
  rw [children_empty]
  exact List.nodup_nil

end Tree

end LinkSurvey.Html
