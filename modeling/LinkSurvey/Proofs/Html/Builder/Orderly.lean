import LinkSurvey.Proofs.Html.Builder.Step
import LinkSurvey.Proofs.Html.Order

/-!
Elements are made in document order as long as nothing is out of order: what is open is always where a walk through
the tree ends, and a new node is put into the innermost open element. So the elements of a document that was read
without an error were made in document order.
-/

namespace LinkSurvey.Html

namespace Tree

open Build (hasName)

variable {t t' : Tree} {i j p : NodeId} {e : Element} {content : Content}

/-- An element that has its own fragment for what is in it. -/
def isTemplate (e : Element) : Bool :=
  e.space = .html && e.name == "template"

theorem hasName_template (h : t.element? i = some e) : hasName t "template" i = isTemplate e := by
  rw [hasName, Build.isHtml, h]
  rfl

theorem hasName_eq (h : t'.element? i = t.element? i) (name : String) : hasName t' name i = hasName t name i := by
  rw [hasName, hasName, Build.isHtml, Build.isHtml, h]

theorem element?_eq_none {n : Node} (hnode : t.node? i = some n) (h : ∀ e, n.content ≠ .element e) :
    t.element? i = none := by
  cases helement : t.element? i with
  | none => rfl
  | some e =>
      obtain ⟨n', hnode', hcontent⟩ := element?_eq_some.1 helement
      obtain rfl : n = n' := Option.some.inj (hnode.symm.trans hnode')
      exact absurd hcontent (h e)

theorem not_isBare {n : Node} (hnode : t.node? i = some n) (h : n.content.isBare = false) : ¬t.IsBare i := by
  rintro ⟨n', hnode', hbare, -⟩
  obtain rfl : n = n' := Option.some.inj (hnode.symm.trans hnode')
  rw [h] at hbare
  cases hbare

theorem not_isBare_of_element? (h : t.element? i = some e) : ¬t.IsBare i := by
  obtain ⟨n, hnode, hcontent⟩ := element?_eq_some.1 h
  exact not_isBare hnode (by rw [hcontent]; rfl)

/-! ### Where new nodes go -/

/-- An element that may get new nodes. If it is a template, they go into its fragment, which is the first thing in
it. -/
structure Holds (t : Tree) (i : NodeId) : Prop where
  exists_element : ∃ e, t.element? i = some e
  atEnd : t.AtEnd i
  fragment : hasName t "template" i = true → ∃ f rest, t.children i = f :: rest
    ∧ (∃ n, t.node? f = some n ∧ n.content = .fragment) ∧ ∀ a ∈ rest, t.IsBare a

/-- Where what is put into an element goes. -/
def landing (t : Tree) (i : NodeId) : NodeId :=
  if hasName t "template" i then t.templateContent i else i

/-- A place at the end of a tree that is itself no template. -/
structure IsPlace (t : Tree) (p : NodeId) : Prop where
  atEnd : t.AtEnd p
  not_isBare : ¬t.IsBare p
  hasName_eq : hasName t "template" p = false

theorem Holds.isPlace (h : t.Holds i) : t.IsPlace (t.landing i) ∧ t.Below i (t.landing i) := by
  obtain ⟨e, helement⟩ := h.exists_element
  rw [landing]
  split
  next htemplate =>
    obtain ⟨f, rest, hchildren, ⟨n, hnode, hcontent⟩, hrest⟩ := h.fragment htemplate
    have hfragment : t.templateContent i = f := by
      rw [templateContent, hchildren]
      rfl
    have hnone : t.element? f = none := element?_eq_none hnode (by rw [hcontent]; exact nofun)
    rw [hfragment]
    refine ⟨⟨.child [] rest h.atEnd hchildren hrest, ?_, ?_⟩, Below.self.child (by rw [hchildren]; simp)⟩
    · exact Tree.not_isBare hnode (by rw [hcontent]; rfl)
    · rw [hasName, Build.isHtml, hnone]
  next htemplate =>
    exact ⟨⟨h.atEnd, not_isBare_of_element? helement, by simpa using htemplate⟩, .self⟩

theorem WellFormed.isPlace_root (ht : t.WellFormed) : t.IsPlace root := by
  obtain ⟨n, hnode, hcontent⟩ := ht.root_eq
  refine ⟨.root, Tree.not_isBare hnode (by rw [hcontent]; rfl), ?_⟩
  rw [hasName, Build.isHtml, element?_eq_none hnode (by rw [hcontent]; exact nofun)]

/-- What may get new nodes still may after a new node, unless the new one was put next to it. -/
theorem Holds.grow (ht : t.WellFormed) (hp : p < t.nodes.size) (hbare : ¬t.IsBare p) (h : t.Holds i)
    (hplace : content.isBare = true ∨ t.Below i p ∧ (i = p → hasName t "template" i = false)) :
    (t.grow p content).Holds i := by
  obtain ⟨e, helement⟩ := h.exists_element
  have hsame := element?_grow content hp (lt_size_of_element? helement)
  refine ⟨⟨e, hsame.trans helement⟩, h.atEnd.grow ht hp hbare content (hplace.imp id And.left), fun htemplate => ?_⟩
  rw [Tree.hasName_eq hsame] at htemplate
  obtain ⟨f, rest, hchildren, ⟨n, hnode, hcontent⟩, hrest⟩ := h.fragment htemplate
  have hfragment : ∃ n, (t.grow p content).node? f = some n ∧ n.content = .fragment := by
    rw [node?_grow content hp, if_neg (Nat.ne_of_lt (lt_size_of_node? hnode)), hnode]
    split_ifs with hfp
    · rw [← hfp, hnode]
      exact ⟨_, rfl, hcontent⟩
    · exact ⟨n, rfl, hcontent⟩
  by_cases hip : i = p
  · rcases hplace with hcontent | ⟨-, hno⟩
    · refine ⟨f, rest ++ [t.nodes.size], ?_, hfragment, isBare_grow_append hp hbare hcontent hrest⟩
      rw [children_grow content hp, if_pos hip, ← hip, hchildren, List.cons_append]
    · exact absurd htemplate (by rw [hno hip]; exact nofun)
  · exact ⟨f, rest, by rw [children_grow content hp, if_neg hip, hchildren], hfragment,
      fun a ha => (hrest a ha).grow hp hbare content⟩

theorem Holds.sameShape (h : t.Holds i) (hsame : t.SameShape t') : t'.Holds i := by
  obtain ⟨e, helement⟩ := h.exists_element
  refine ⟨⟨e, (hsame.element?_eq i).trans helement⟩, hsame.atEnd h.atEnd, fun htemplate => ?_⟩
  rw [Tree.hasName_eq (hsame.element?_eq i)] at htemplate
  obtain ⟨f, rest, hchildren, ⟨n, hnode, hcontent⟩, hrest⟩ := h.fragment htemplate
  refine ⟨f, rest, (hsame.children_eq i).trans hchildren, ?_, fun a ha => hsame.isBare (hrest a ha)⟩
  rcases hsame.node?_eq f with hnode' | ⟨m, old, new, hm, hold, -⟩
  · exact ⟨n, hnode'.trans hnode, hcontent⟩
  · obtain rfl : n = m := Option.some.inj (hnode.symm.trans hm)
    rw [hcontent] at hold
    cases hold

theorem landing_eq (h : t'.node? i = t.node? i) : t'.landing i = t.landing i := by
  have helement : t'.element? i = t.element? i := by rw [element?, element?, h]
  rw [landing, landing, Tree.hasName_eq helement, templateContent, templateContent, children, children, h]

theorem sameShape_extendText {last : Option NodeId} {text : Text} (h : t.extendText last text = some t') :
    t.SameShape t' := by
  rw [extendText.eq_def] at h
  split at h
  · cases h
  · split at h
    next hnode =>
      obtain rfl := Option.some.inj h
      exact sameShape_update hnode rfl _
    · cases h

/-- Text extends the text that is there, or it is a new node. -/
theorem appendText_cases (t : Tree) (p : NodeId) (text : Text) :
    t.SameShape (t.appendText p text) ∨ t.appendText p text = t.grow p (.text text) := by
  rw [appendText]
  cases hextend : t.extendText (t.children p).getLast? text with
  | none => exact .inr rfl
  | some t' => exact .inl (sameShape_extendText hextend)

/-! ### New elements -/

theorem ext_node? (h : ∀ j, t'.node? j = t.node? j) : t' = t := by
  obtain ⟨nodes⟩ := t
  obtain ⟨nodes'⟩ := t'
  exact congrArg mk (Array.ext_getElem? h)

theorem addElement_snd (t : Tree) (e : Element) : (t.addElement e).2 = t.nodes.size := by
  rw [addElement]
  dsimp only
  split
  · rfl
  · rfl

theorem addElement_fst (t : Tree) (e : Element) : (t.addElement e).1 = if isTemplate e then
    (((t.add (.element e)).1.add .fragment).1.update (t.nodes.size + 1)
      fun n => { n with parent := some t.nodes.size }).update t.nodes.size
      fun n => { n with children := [t.nodes.size + 1] }
    else (t.add (.element e)).1 := by
  have hsize : (t.add (.element e)).1.nodes.size = t.nodes.size + 1 := Array.size_push ..
  rw [addElement, isTemplate]
  dsimp only
  split_ifs with htemplate
  · rw [← hsize]
    rfl
  · rfl

theorem node?_succ_size (t : Tree) : t.node? (t.nodes.size + 1) = none :=
  Array.getElem?_eq_none (Nat.le_succ _)

theorem node?_addElement (e : Element) (j : NodeId) : (t.addElement e).1.node? j =
    if j = t.nodes.size then
      some { content := .element e, children := if isTemplate e then [t.nodes.size + 1] else [] }
    else if j = t.nodes.size + 1 then
      if isTemplate e then some { content := .fragment, parent := some t.nodes.size } else none
    else t.node? j := by
  have hsize : (t.add (.element e)).1.nodes.size = t.nodes.size + 1 := Array.size_push ..
  have hnone := t.node?_succ_size
  rw [addElement_fst]
  split_ifs with htemplate <;> simp only [node?_update, node?_add, hsize] <;> grind

/-- A new element at the end of another node, and in a template its fragment. -/
theorem append_addElement (e : Element) (hp : p < t.nodes.size) :
    (t.addElement e).1.append p t.nodes.size = if isTemplate e then
      (t.grow p (.element e)).grow t.nodes.size .fragment else t.grow p (.element e) := by
  have hnew : t.nodes.size < (t.grow p (.element e)).nodes.size := by
    rw [size_grow]
    exact Nat.lt_succ_self _
  have hnone := t.node?_succ_size
  have hparent : (t.addElement e).1.parent? t.nodes.size = none := by
    rw [parent?, node?_addElement, if_pos rfl]
    rfl
  refine ext_node? fun j => ?_
  rw [append, detach, hparent]
  split_ifs with htemplate <;>
    simp only [node?_update, node?_addElement, node?_grow _ hnew, node?_grow _ hp, size_grow, htemplate] <;> grind

theorem element?_grow_self (e : Element) (hp : p < t.nodes.size) :
    (t.grow p (.element e)).element? t.nodes.size = some e :=
  element?_eq_some.2 ⟨_, by rw [node?_grow _ hp, if_pos rfl], rfl⟩

theorem mem_children_grow (content : Content) (hp : p < t.nodes.size) :
    t.nodes.size ∈ (t.grow p content).children p := by
  rw [children_grow content hp, if_pos rfl]
  exact List.mem_append_right _ List.mem_cons_self

theorem IsPlace.holds_grow (ht : t.WellFormed) (hp : t.IsPlace p) (he : isTemplate e = false) :
    (t.grow p (.element e)).Holds t.nodes.size := by
  have helement := element?_grow_self e (hp.atEnd.lt_size ht)
  refine ⟨⟨e, helement⟩, hp.atEnd.grow_self ht hp.not_isBare _, fun h => ?_⟩
  rw [hasName_template helement, he] at h
  cases h

/-- A new template gets its fragment before anything is put into it. -/
theorem IsPlace.holds_grow_fragment (ht : t.WellFormed) (hp : t.IsPlace p) (e : Element) :
    ((t.grow p (.element e)).grow t.nodes.size .fragment).Holds t.nodes.size := by
  have hsize := hp.atEnd.lt_size ht
  have ht' := wellFormed_grow ht hsize (.element e)
  have helement := element?_grow_self e hsize
  have hend := hp.atEnd.grow_self ht hp.not_isBare (.element e)
  have hnew := lt_size_of_element? helement
  refine ⟨⟨e, (element?_grow _ hnew hnew).trans helement⟩, ?_,
    fun _ => ⟨(t.grow p (.element e)).nodes.size, [], ?_, ?_, nofun⟩⟩
  · exact hend.grow ht' hnew (not_isBare_of_element? helement) _ (.inr .self)
  · rw [children_grow _ hnew, if_pos rfl, children_grow_self _ hsize, List.nil_append]
  · exact ⟨_, by rw [node?_grow _ hnew, if_pos rfl], rfl⟩

end Tree

namespace Builder

open Build (hasName)

variable {b b' : Builder} {p : NodeId} {content : Content}

/-- What is open is at the end of the tree, one in the other. -/
structure Orderly (b : Builder) : Prop where
  inOrder : b.tree.InOrder
  fostering_eq : b.fostering = false
  holds : ∀ i ∈ b.opened, b.tree.Holds i
  nested : b.opened.Pairwise fun inner outer => b.tree.Below outer inner

/-- Where the next node goes. -/
def place (b : Builder) : NodeId :=
  b.tree.landing (b.opened.headD Tree.root)

theorem Orderly.isPlace (hb : b.Orderly) : b.tree.IsPlace b.place ∧ ∀ i ∈ b.opened, b.tree.Below i b.place := by
  obtain ⟨-, -, hholds, hnested⟩ := id hb
  rw [place]
  cases hopened : b.opened with
  | nil =>
      have hroot := hb.inOrder.isPlace_root
      have hlanding : b.tree.landing Tree.root = Tree.root := by
        rw [Tree.landing, hroot.hasName_eq]
        rfl
      refine ⟨?_, nofun⟩
      rw [List.headD_nil, hlanding]
      exact hroot
  | cons i outer =>
      rw [hopened] at hholds hnested
      obtain ⟨hplace, hbelow⟩ := (hholds i List.mem_cons_self).isPlace
      refine ⟨hplace, fun j hj => ?_⟩
      rcases List.mem_cons.1 hj with rfl | hj
      · exact hbelow
      · exact ((List.pairwise_cons.1 hnested).1 j hj).trans hbelow

theorem Orderly.grow (hb : b.Orderly) (hend : b.tree.AtEnd p) (hbare : ¬b.tree.IsBare p)
    (hplace : content.isBare = true
      ∨ ∀ i ∈ b.opened, b.tree.Below i p ∧ (i = p → hasName b.tree "template" i = false)) :
    Orderly { b with tree := b.tree.grow p content } := by
  have ht := hb.inOrder.toWellFormed
  have hp := hend.lt_size ht
  exact ⟨hb.inOrder.grow hbare hend content, hb.fostering_eq,
    fun i hi => (hb.holds i hi).grow ht hp hbare (hplace.imp id fun h => h i hi),
    hb.nested.imp fun h => h.grow hp content⟩

theorem Orderly.sameShape (hb : b.Orderly) {t : Tree} (h : b.tree.SameShape t) : Orderly { b with tree := t } :=
  ⟨hb.inOrder.sameShape h, hb.fostering_eq, fun i hi => (hb.holds i hi).sameShape h, hb.nested.imp fun h' => h.below h'⟩

/-- One more open element, in those that are open already. -/
theorem Orderly.open {i : NodeId} (hb : b.Orderly) (hholds : b.tree.Holds i)
    (hbelow : ∀ j ∈ b.opened, b.tree.Below j i) : Orderly { b with opened := i :: b.opened } :=
  ⟨hb.inOrder, hb.fostering_eq, fun _ hj => (List.mem_cons.1 hj).elim (fun h => h ▸ hholds) (hb.holds _),
    hb.nested.cons hbelow⟩

/-- A node in a place that everything open is around. -/
theorem Orderly.grow_place (hb : b.Orderly) (hp : b.tree.IsPlace p) (hbelow : ∀ i ∈ b.opened, b.tree.Below i p)
    (content : Content) : Orderly { b with tree := b.tree.grow p content } := by
  refine hb.grow hp.atEnd hp.not_isBare (.inr fun i hi => ⟨hbelow i hi, ?_⟩)
  rintro rfl
  exact hp.hasName_eq

theorem Orderly.append_addElement (hb : b.Orderly) (hp : b.tree.IsPlace p) (hbelow : ∀ i ∈ b.opened, b.tree.Below i p)
    (e : Element) :
    let t := (b.tree.addElement e).1.append p b.tree.nodes.size
    Orderly { b with tree := t } ∧ t.Holds b.tree.nodes.size ∧ ∀ i ∈ b.opened, t.Below i b.tree.nodes.size := by
  have ht := hb.inOrder.toWellFormed
  have hsize := hp.atEnd.lt_size ht
  have hgrow := hb.grow_place hp hbelow (.element e)
  have hinside : ∀ i ∈ b.opened, (b.tree.grow p (.element e)).Below i b.tree.nodes.size :=
    fun i hi => ((hbelow i hi).grow hsize _).child (Tree.mem_children_grow _ hsize)
  rw [Tree.append_addElement e hsize]
  cases htemplate : Tree.isTemplate e with
  | false => exact ⟨hgrow, hp.holds_grow ht htemplate, hinside⟩
  | true =>
      have helement := Tree.element?_grow_self e hsize
      have hnew := Tree.lt_size_of_element? helement
      refine ⟨hgrow.grow (hp.atEnd.grow_self ht hp.not_isBare _) (Tree.not_isBare_of_element? helement)
        (.inr fun i hi => ⟨hinside i hi, fun hsame => ?_⟩), hp.holds_grow_fragment ht e,
        fun i hi => (hinside i hi).grow hnew _⟩
      exact absurd hsame (Nat.ne_of_lt (Nat.lt_of_le_of_lt ((hbelow i hi).le ht) hsize))

/-! ### Steps in order -/

theorem currentPlace_eq (h : b.fostering = false) : Build.currentPlace b = .lastChild b.place := by
  rw [Build.currentPlace, Build.placeIn, h, place, Tree.landing]
  split
  · contradiction
  · split
    · rfl
    · rfl

/-- The place is the same before and after an element is made. -/
theorem Orderly.currentPlace_addElement (hb : b.Orderly) (e : Element) :
    Build.currentPlace { b with tree := (b.tree.addElement e).1 } = .lastChild b.place := by
  have hlt : b.opened.headD Tree.root < b.tree.nodes.size := by
    cases hopened : b.opened with
    | nil => exact Tree.AtEnd.root.lt_size hb.inOrder.toWellFormed
    | cons i outer =>
        have hholds := hb.holds i (by rw [hopened]; exact List.mem_cons_self)
        exact hholds.atEnd.lt_size hb.inOrder.toWellFormed
  have hsame : (b.tree.addElement e).1.node? (b.opened.headD Tree.root) = b.tree.node? (b.opened.headD Tree.root) := by
    rw [Tree.node?_addElement, if_neg (Nat.ne_of_lt hlt), if_neg (Nat.ne_of_lt (Nat.lt_succ_of_lt hlt))]
  have hplace : Build.currentPlace { b with tree := (b.tree.addElement e).1 }
      = .lastChild ((b.tree.addElement e).1.landing (b.opened.headD Tree.root)) :=
    currentPlace_eq hb.fostering_eq
  rw [hplace, Tree.landing_eq hsame, place]

theorem Orderly.insert (hb : b.Orderly) (isOpen : Bool) (e : Element) : (b.insert isOpen e).Orderly := by
  obtain ⟨hplace, hbelow⟩ := hb.isPlace
  obtain ⟨htree, hholds, hinside⟩ := hb.append_addElement hplace hbelow e
  have hinsert : b.insert isOpen e = { b with
      tree := (b.tree.addElement e).1.append b.place b.tree.nodes.size
      opened := if isOpen then b.tree.nodes.size :: b.opened else b.opened } := by
    rw [Builder.insert]
    dsimp only
    rw [Tree.addElement_snd, hb.currentPlace_addElement]
    rfl
  rw [hinsert]
  cases isOpen with
  | true => exact htree.open hholds hinside
  | false => exact htree

theorem Orderly.comment (hb : b.Orderly) (hend : b.tree.AtEnd p) (hbare : ¬b.tree.IsBare p) :
    (b.withComment (.lastChild p)).Orderly :=
  hb.grow hend hbare (.inl rfl)

theorem Orderly.text (hb : b.Orderly) (text : Text) :
    Orderly { b with tree := Build.insertTextAt b.tree (Build.currentPlace b) text } := by
  obtain ⟨hplace, hbelow⟩ := hb.isPlace
  rw [currentPlace_eq hb.fostering_eq]
  rcases b.tree.appendText_cases b.place text with hsame | hgrow
  · exact hb.sameShape hsame
  · rw [Build.insertTextAt, hgrow]
    exact hb.grow_place hplace hbelow _

/-- The root element is made when nothing is open. -/
theorem Orderly.root (hb : b.Orderly) (hopened : b.opened = []) (attributes : Attributes) :
    (b.withRoot attributes).Orderly := by
  have hnone : ∀ i ∈ b.opened, b.tree.Below i Tree.root := by
    rw [hopened]
    exact nofun
  obtain ⟨htree, hholds, hinside⟩ :=
    hb.append_addElement hb.inOrder.isPlace_root hnone { name := "html", attributes }
  have hroot := htree.open hholds hinside
  rw [withRoot]
  dsimp only
  rw [Tree.addElement_snd]
  exact ⟨hroot.inOrder, hroot.fostering_eq, hroot.holds, hroot.nested⟩

/-- Without an error every step keeps the order. -/
theorem Orderly.step (hb : b.Orderly) (hturn : b.InTurn) (h : Step b b') (herror : b.errors = 0)
    (hfail : b'.errors = 0) : b'.Orderly := by
  have hroot := hb.inOrder.isPlace_root
  have hno {p : Prop} (h : 0 < b.errors) : p := absurd herror (Nat.ne_of_gt h)
  cases h with
  | fail => cases hfail
  | note | templateModes | keepMode | setMode | resetMode => exact ⟨hb.inOrder, hb.fostering_eq, hb.holds, hb.nested⟩
  | close h => exact ⟨hb.inOrder, hb.fostering_eq, fun i hi => hb.holds i (h.subset hi), hb.nested.sublist h⟩
  | doctype _ quirks =>
      have hgrow : Orderly { b with tree := b.tree.grow Tree.root .doctype } :=
        hb.grow .root hroot.not_isBare (.inl rfl)
      exact ⟨hgrow.inOrder, hgrow.fostering_eq, hgrow.holds, hgrow.nested⟩
  | root hmode attributes => exact hb.root (hturn.opened_eq (by rw [hmode]; rfl)) attributes
  | insert _ isOpen e => exact hb.insert isOpen e
  | text text => exact hb.text text
  | comment =>
      rw [currentPlace_eq hb.fostering_eq]
      exact hb.comment hb.isPlace.1.atEnd hb.isPlace.1.not_isBare
  | commentTo h =>
      rcases h with rfl | hp
      · exact hb.comment .root hroot.not_isBare
      · obtain ⟨e, helement⟩ := (hb.holds _ hp).exists_element
        exact hb.comment (hb.holds _ hp).atEnd (Tree.not_isBare_of_element? helement)
  | make h | move h | amend h | reopen h | foster h => exact hno h

theorem orderly_start : Orderly {} :=
  ⟨Tree.inOrder_empty, rfl, nofun, .nil⟩

theorem orderly_of_steps (h : Steps {} b) (herror : b.errors = 0) : b.Orderly := by
  induction h with
  | refl => exact orderly_start
  | @tail b b' hsteps hstep ih =>
      have hno : b.errors = 0 := Nat.le_zero.1 (herror ▸ hstep.errors_le)
      have hturn : b.InTurn := (isReady_start.steps hsteps).resolve_left (by rw [hno]; exact Nat.lt_irrefl 0)
      exact (ih hno).step hturn hstep hno herror

end Builder

end LinkSurvey.Html
