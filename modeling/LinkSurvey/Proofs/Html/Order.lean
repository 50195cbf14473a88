import LinkSurvey.Proofs.Html.Tree

/-!
Document order. A walk through a tree comes to each node before what is in it. It meets the elements in the order in
which they were made if each of them was put where the walk ended at that time: into a node after which no other
element comes.
-/

namespace LinkSurvey.Html

/-- Whether a node is one that never holds others. -/
def Content.isBare : Content → Bool
  | .doctype | .comment | .text _ => true
  | _ => false

namespace Tree

/-- The elements at and below a node in document order, as far as `depth` levels down. -/
def elementsTo (t : Tree) : Nat → NodeId → List (NodeId × Element)
  | 0, _ => []
  | depth + 1, i =>
    ((t.element? i).map fun e => (i, e)).toList ++ (t.children i).flatMap (t.elementsTo depth)

/-- The elements of a document in document order. No path is longer than there are nodes. -/
def inOrder (t : Tree) : List (NodeId × Element) :=
  t.elementsTo t.nodes.size root

/-- Nodes hang from nodes that were made before them, each in one place. -/
structure WellFormed (t : Tree) : Prop where
  root_eq : ∃ n, t.node? root = some n ∧ n.content = .document
  lt_child : ∀ {p c : Nat}, c ∈ t.children p → p < c
  child_lt : ∀ {p c : Nat}, c ∈ t.children p → c < t.nodes.size
  parent?_eq : ∀ {p c : Nat}, c ∈ t.children p → t.parent? c = some p
  nodup : ∀ p, (t.children p).Nodup

/-- `Below t i p`: `p` is `i` or a node in it. -/
inductive Below (t : Tree) (i : NodeId) : NodeId → Prop where
  | self : Below t i i
  | child {p c : NodeId} (h : Below t i p) (hc : c ∈ t.children p) : Below t i c

/-- A node that never holds others. -/
def IsBare (t : Tree) (i : NodeId) : Prop :=
  ∃ n, t.node? i = some n ∧ n.content.isBare = true ∧ n.children = []

/-- A walk that has been through this node comes to no other element. -/
inductive AtEnd (t : Tree) : NodeId → Prop where
  | root : AtEnd t root
  | child {p c : NodeId} (before after : List NodeId) (h : AtEnd t p) (hchildren : t.children p = before ++ c :: after)
      (hafter : ∀ a ∈ after, t.IsBare a) : AtEnd t c

variable {t : Tree} {i j p q c : Nat}

/-! ### What is below a node -/

theorem Below.trans (h : t.Below i p) (h' : t.Below p q) : t.Below i q := by
  induction h' with
  | self => exact h
  | child _ hc ih => exact ih.child hc

theorem Below.le (ht : t.WellFormed) (h : t.Below i p) : i ≤ p := by
  induction h with
  | self => exact Nat.le_refl i
  | child _ hc ih => exact Nat.le_trans ih (Nat.le_of_lt (ht.lt_child hc))

/-- Of two nodes that hold the same one, one holds the other. -/
theorem Below.total (ht : t.WellFormed) (hi : t.Below i p) (hj : t.Below j p) : t.Below i j ∨ t.Below j i := by
  induction hi with
  | self => exact Or.inr hj
  | @child p c h hc ih =>
      cases hj with
      | self => exact Or.inl (h.child hc)
      | @child q _ h' hc' =>
          have hsame : q = p := Option.some.inj ((ht.parent?_eq hc').symm.trans (ht.parent?_eq hc))
          exact ih (hsame ▸ h')

/-- What is in a child is in no other child. -/
theorem Below.eq_of_siblings (ht : t.WellFormed) (hi : i ∈ t.children q) (hj : j ∈ t.children q) (hip : t.Below i p)
    (hjp : t.Below j p) : i = j := by
  have habove : ∀ {i j : NodeId}, i ∈ t.children q → j ∈ t.children q → t.Below i j → i = j := by
    intro i j hi hj h
    cases h with
    | self => rfl
    | @child p _ h hc =>
        have hsame : p = q := Option.some.inj ((ht.parent?_eq hc).symm.trans (ht.parent?_eq hj))
        exact absurd (hsame ▸ h.le ht) (Nat.not_le.2 (ht.lt_child hi))
  rcases hip.total ht hjp with h | h
  · exact habove hi hj h
  · exact (habove hj hi h).symm

theorem mem_children {before after : List NodeId} (h : t.children p = before ++ c :: after) : c ∈ t.children p := by
  rw [h]
  exact List.mem_append_right _ List.mem_cons_self

theorem AtEnd.lt_size (ht : t.WellFormed) (h : t.AtEnd p) : p < t.nodes.size := by
  cases h with
  | root =>
      obtain ⟨n, hnode, -⟩ := ht.root_eq
      exact lt_size_of_node? hnode
  | @child q _ before after h hchildren hafter =>
      exact ht.child_lt (mem_children hchildren)

/-! ### One more node -/

theorem children_eq {n : Node} (h : t.node? i = some n) : t.children i = n.children := by
  rw [children, h]
  rfl

theorem children_grow (content : Content) (hp : p < t.nodes.size) (j : NodeId) :
    (t.grow p content).children j = if j = p then t.children p ++ [t.nodes.size] else t.children j := by
  rw [children, children, children, node?_grow content hp]
  split_ifs with hnew hjp hjp
  · exact absurd (hnew.symm.trans hjp) (Nat.ne_of_gt hp)
  · have hnone : t.node? j = none := by
      rw [hnew]
      exact Array.getElem?_eq_none (Nat.le_refl _)
    rw [hnone]
    rfl
  · obtain ⟨n, hnode⟩ : ∃ n, t.node? p = some n := ⟨_, Array.getElem?_eq_getElem hp⟩
    rw [hnode]
    rfl
  · rfl

theorem children_grow_self (content : Content) (hp : p < t.nodes.size) :
    (t.grow p content).children t.nodes.size = [] := by
  rw [children, node?_grow content hp, if_pos rfl]
  rfl

theorem parent?_grow (content : Content) (hp : p < t.nodes.size) (j : NodeId) :
    (t.grow p content).parent? j = if j = t.nodes.size then some p else t.parent? j := by
  rw [parent?, parent?, node?_grow content hp]
  split_ifs with hnew hjp
  · rfl
  · rw [hjp]
    cases t.node? p <;> rfl
  · rfl

theorem wellFormed_grow (ht : t.WellFormed) (hp : p < t.nodes.size) (content : Content) :
    (t.grow p content).WellFormed := by
  have hchild : ∀ {q c : NodeId}, c ∈ (t.grow p content).children q →
      c ∈ t.children q ∨ q = p ∧ c = t.nodes.size := by
    intro q c hc
    rw [children_grow content hp] at hc
    split_ifs at hc with hqp
    · rw [hqp]
      exact (List.mem_append.1 hc).imp id fun hc => ⟨rfl, List.mem_singleton.1 hc⟩
    · exact Or.inl hc
  refine ⟨?_, fun {q c} hc => ?_, fun {q c} hc => ?_, fun {q c} hc => ?_, fun q => ?_⟩
  · obtain ⟨n, hnode, hcontent⟩ := ht.root_eq
    have hold : Tree.root ≠ t.nodes.size := Nat.ne_of_lt (lt_size_of_node? hnode)
    rw [node?_grow content hp, if_neg hold]
    split_ifs with hroot
    · rw [← hroot, hnode]
      exact ⟨_, rfl, hcontent⟩
    · exact ⟨n, hnode, hcontent⟩
  · rcases hchild hc with hc | ⟨rfl, rfl⟩
    · exact ht.lt_child hc
    · exact hp
  · rw [size_grow]
    rcases hchild hc with hc | ⟨rfl, rfl⟩
    · exact Nat.lt_succ_of_lt (ht.child_lt hc)
    · exact Nat.lt_succ_self _
  · rw [parent?_grow content hp]
    rcases hchild hc with hc | ⟨rfl, rfl⟩
    · rw [if_neg (Nat.ne_of_lt (ht.child_lt hc))]
      exact ht.parent?_eq hc
    · exact if_pos rfl
  · rw [children_grow content hp]
    split_ifs with hqp
    · refine List.nodup_append.2 ⟨ht.nodup p, by simp, ?_⟩
      rintro c hc _ hd rfl
      exact absurd (List.mem_singleton.1 hd) (Nat.ne_of_lt (ht.child_lt hc))
    · exact ht.nodup q

theorem Below.grow (hp : p < t.nodes.size) (content : Content) (h : t.Below i j) : (t.grow p content).Below i j := by
  induction h with
  | self => exact .self
  | @child q c _ hc ih =>
      refine ih.child ?_
      rw [children_grow content hp]
      split_ifs with hqp
      · rw [← hqp]
        exact List.mem_append_left _ hc
      · exact hc

theorem IsBare.grow (hp : p < t.nodes.size) (hbare : ¬t.IsBare p) (content : Content) (h : t.IsBare i) :
    (t.grow p content).IsBare i := by
  have hne : i ≠ p := by
    rintro rfl
    exact hbare h
  obtain ⟨n, hnode, hempty⟩ := h
  refine ⟨n, ?_, hempty⟩
  rw [node?_grow content hp, if_neg (Nat.ne_of_lt (lt_size_of_node? hnode)), if_neg hne, hnode]

/-- After bare nodes and a new bare one there are bare nodes. -/
theorem isBare_grow_append (hp : p < t.nodes.size) (hbare : ¬t.IsBare p) {content : Content}
    (hcontent : content.isBare = true) {after : List NodeId} (hafter : ∀ a ∈ after, t.IsBare a) :
    ∀ a ∈ after ++ [t.nodes.size], (t.grow p content).IsBare a := by
  intro a ha
  rcases List.mem_append.1 ha with ha | ha
  · exact (hafter a ha).grow hp hbare content
  · rw [List.mem_singleton.1 ha]
    exact ⟨_, by rw [node?_grow content hp, if_pos rfl], hcontent, rfl⟩

/-- The places at the end stay there if the new node is bare, or if it was put into them. -/
theorem AtEnd.grow (ht : t.WellFormed) (hp : p < t.nodes.size) (hbare : ¬t.IsBare p) (content : Content)
    (h : t.AtEnd q) (hplace : content.isBare = true ∨ t.Below q p) : (t.grow p content).AtEnd q := by
  induction h with
  | root => exact .root
  | @child r c before after h hchildren hafter ih =>
      have hc := mem_children hchildren
      have habove := ih (hplace.imp id fun hcp => (Below.self.child hc).trans hcp)
      by_cases hrp : r = p
      · rcases hplace with hcontent | hcp
        · refine .child before (after ++ [t.nodes.size]) habove ?_ (isBare_grow_append hp hbare hcontent hafter)
          rw [children_grow content hp, if_pos hrp, ← hrp, hchildren, List.append_assoc, List.cons_append]
        · exact absurd (hrp ▸ hcp.le ht) (Nat.not_le.2 (ht.lt_child hc))
      · refine .child before after habove ?_ fun a ha => (hafter a ha).grow hp hbare content
        rw [children_grow content hp, if_neg hrp, hchildren]

/-- The new node itself is at the end. -/
theorem AtEnd.grow_self (ht : t.WellFormed) (hbare : ¬t.IsBare p) (h : t.AtEnd p) (content : Content) :
    (t.grow p content).AtEnd t.nodes.size := by
  have hp := h.lt_size ht
  refine .child (t.children p) [] (h.grow ht hp hbare content (Or.inr .self)) ?_ nofun
  rw [children_grow content hp, if_pos rfl]

/-! ### The walk -/

theorem elementsTo_succ (t : Tree) (depth : Nat) (i : NodeId) : t.elementsTo (depth + 1) i
    = ((t.element? i).map fun e => (i, e)).toList ++ (t.children i).flatMap (t.elementsTo depth) :=
  rfl

/-- More depth than there are later nodes makes no difference. -/
theorem elementsTo_of_le (ht : t.WellFormed) {depth : Nat} (h : t.nodes.size ≤ i + depth) :
    t.elementsTo (depth + 1) i = t.elementsTo depth i := by
  induction depth generalizing i with
  | zero =>
      have hnone : t.node? i = none := Array.getElem?_eq_none h
      rw [elementsTo_succ, element?, children, hnone]
      rfl
  | succ depth ih =>
      rw [elementsTo_succ, elementsTo_succ t depth]
      refine congrArg _ (List.flatMap_congr fun c hc => ih ?_)
      have hlt := ht.lt_child hc
      omega

/-- A walk that does not come to the place of a new node is what it was. -/
theorem elementsTo_grow_of_not_below (hp : p < t.nodes.size) (content : Content) (hi : i < t.nodes.size)
    (ht : t.WellFormed) (h : ¬t.Below i p) (depth : Nat) :
    (t.grow p content).elementsTo depth i = t.elementsTo depth i := by
  induction depth generalizing i with
  | zero => rfl
  | succ depth ih =>
      have hne : i ≠ p := by
        rintro rfl
        exact h .self
      rw [elementsTo_succ, elementsTo_succ, element?_grow content hp hi, children_grow content hp, if_neg hne]
      refine congrArg _ (List.flatMap_congr fun c hc => ih (ht.child_lt hc) fun hcp => h ?_)
      exact (Below.self.child hc).trans hcp

/-- A walk through the tree from here ends with the new node. -/
def EndsWith (t : Tree) (p : NodeId) (content : Content) (i : NodeId) : Prop :=
  ∀ depth, t.nodes.size < i + depth →
    (t.grow p content).elementsTo depth i
      = t.elementsTo depth i ++ ((t.grow p content).placed? t.nodes.size).toList

theorem placed?_grow_self (content : Content) (hp : p < t.nodes.size) :
    (t.grow p content).placed? t.nodes.size
      = ((t.grow p content).element? t.nodes.size).map fun e => (t.nodes.size, e) := by
  rw [placed?, element?, node?_grow content hp, if_pos rfl]
  cases content <;> rfl

theorem endsWith_self (ht : t.WellFormed) (hp : p < t.nodes.size) (content : Content) : t.EndsWith p content p := by
  intro depth hdepth
  obtain ⟨depth, rfl⟩ : ∃ d, depth = d + 2 := ⟨depth - 2, by omega⟩
  have hold : (t.children p).flatMap ((t.grow p content).elementsTo (depth + 1))
      = (t.children p).flatMap (t.elementsTo (depth + 1)) := by
    refine List.flatMap_congr fun c hc => ?_
    refine elementsTo_grow_of_not_below hp content (ht.child_lt hc) ht (fun hcp => ?_) _
    exact absurd (hcp.le ht) (Nat.not_le.2 (ht.lt_child hc))
  rw [elementsTo_succ, elementsTo_succ, element?_grow content hp hp, children_grow content hp, if_pos rfl,
    List.flatMap_append, hold, List.flatMap_cons, List.flatMap_nil, List.append_nil, elementsTo_succ _ depth
    t.nodes.size, children_grow_self content hp, List.flatMap_nil, List.append_nil, ← placed?_grow_self content hp,
    List.append_assoc]

/-- If the walk from a child ends with the new node, so does that from its parent: after the child come bare nodes
only. -/
theorem EndsWith.parent (ht : t.WellFormed) (hp : p < t.nodes.size) {content : Content} {before after : List NodeId}
    (h : t.EndsWith p content c) (hcp : t.Below c p) (hchildren : t.children q = before ++ c :: after)
    (hafter : ∀ a ∈ after, t.IsBare a) (hbare : ¬t.IsBare p) : t.EndsWith p content q := by
  have hc := mem_children hchildren
  have hlt := ht.lt_child hc
  have hq : q < t.nodes.size := Nat.lt_trans hlt (ht.child_lt hc)
  have hqp : q ≠ p := Nat.ne_of_lt (Nat.lt_of_lt_of_le hlt (hcp.le ht))
  intro depth hdepth
  obtain ⟨depth, rfl⟩ : ∃ d, depth = d + 1 := ⟨depth - 1, by omega⟩
  have hbefore : before.flatMap ((t.grow p content).elementsTo depth) = before.flatMap (t.elementsTo depth) := by
    refine List.flatMap_congr fun b hb => ?_
    have hbq : b ∈ t.children q := by
      rw [hchildren]
      exact List.mem_append_left _ hb
    refine elementsTo_grow_of_not_below hp content (ht.child_lt hbq) ht (fun hbp => ?_) _
    have hsame := Below.eq_of_siblings ht hbq hc hbp hcp
    have hnodup := ht.nodup q
    rw [hchildren] at hnodup
    exact (List.nodup_append.1 hnodup).2.2 b hb c List.mem_cons_self hsame
  have hnothing : ∀ {t' : Tree} {a : NodeId}, t'.IsBare a → t'.elementsTo depth a = [] := by
    rintro t' a ⟨n, hnode, hcontent, hempty⟩
    cases depth with
    | zero => rfl
    | succ depth =>
        rw [elementsTo_succ, children_eq hnode, hempty, element?, hnode]
        obtain ⟨content, parent, children⟩ := n
        cases content with
        | document => cases hcontent
        | fragment => cases hcontent
        | element e => cases hcontent
        | _ => rfl
  have hold : ∀ a ∈ after, t.elementsTo depth a = [] := fun a ha => hnothing (hafter a ha)
  have hnew : ∀ a ∈ after, (t.grow p content).elementsTo depth a = [] :=
    fun a ha => hnothing ((hafter a ha).grow hp hbare content)
  rw [elementsTo_succ, elementsTo_succ, element?_grow content hp hq, children_grow content hp, if_neg hqp, hchildren]
  rw [List.flatMap_append, List.flatMap_append, List.flatMap_cons, List.flatMap_cons, hbefore,
    List.flatMap_eq_nil_iff.2 hold, List.flatMap_eq_nil_iff.2 hnew, h depth (by omega)]
  simp only [List.append_nil, List.append_assoc]

theorem AtEnd.endsWith (ht : t.WellFormed) (hp : p < t.nodes.size) (hbare : ¬t.IsBare p) {content : Content}
    (h : t.AtEnd c) (hcp : t.Below c p) (hends : t.EndsWith p content c) :
    t.EndsWith p content Tree.root := by
  induction h with
  | root => exact hends
  | @child q c before after h hchildren hafter ih =>
      have hc := mem_children hchildren
      exact ih ((Below.self.child hc).trans hcp) (hends.parent ht hp hcp hchildren hafter hbare)

/-- A node that is put where the walk ends is the last one that it comes to. -/
theorem inOrder_grow (ht : t.WellFormed) (hbare : ¬t.IsBare p) (h : t.AtEnd p) (content : Content) :
    (t.grow p content).inOrder
      = t.inOrder ++ ((t.grow p content).placed? t.nodes.size).toList := by
  have hp := h.lt_size ht
  have hends := h.endsWith ht hp hbare .self (endsWith_self ht hp content)
  have hsame : t.elementsTo (t.nodes.size + 1) root = t.elementsTo t.nodes.size root :=
    elementsTo_of_le ht (Nat.le_add_left _ _)
  rw [inOrder, inOrder, size_grow, hends _ (Nat.lt_add_left _ (Nat.lt_succ_self _)), hsame]

/-! ### Trees in order -/

/-- A tree whose elements were made in document order. -/
structure InOrder (t : Tree) : Prop extends t.WellFormed where
  elements_eq : t.elements = t.inOrder

theorem InOrder.grow (ht : t.InOrder) (hbare : ¬t.IsBare p) (h : t.AtEnd p) (content : Content) :
    (t.grow p content).InOrder := by
  have hp := h.lt_size ht.toWellFormed
  refine ⟨wellFormed_grow ht.toWellFormed hp content, ?_⟩
  rw [elements_grow content hp, inOrder_grow ht.toWellFormed hbare h, ht.elements_eq]

theorem children_empty (p : NodeId) : children {} p = [] := by
  cases p <;> rfl

theorem not_mem_children_empty : c ∉ children {} p := by
  rw [children_empty]
  exact List.not_mem_nil

theorem inOrder_empty : InOrder {} := by
  refine ⟨⟨⟨_, rfl, rfl⟩, fun hc => absurd hc not_mem_children_empty, fun hc => absurd hc not_mem_children_empty,
    fun hc => absurd hc not_mem_children_empty, fun p => ?_⟩, rfl⟩
  rw [children_empty]
  exact List.nodup_nil

/-! ### More text -/

/-- Two trees that differ in nothing but the texts of text nodes. -/
structure SameShape (t t' : Tree) : Prop where
  size_eq : t'.nodes.size = t.nodes.size
  node?_eq : ∀ i, t'.node? i = t.node? i ∨ ∃ n old new, t.node? i = some n ∧ n.content = .text old
    ∧ t'.node? i = some { n with content := .text new }

variable {t' : Tree}

theorem sameShape_update {n : Node} {old : Text} (hnode : t.node? i = some n) (hold : n.content = .text old)
    (new : Text) : t.SameShape (t.update i fun n => { n with content := .text new }) := by
  refine ⟨Array.size_modify, fun j => ?_⟩
  rw [node?_update]
  split_ifs with hij
  · subst hij
    exact Or.inr ⟨n, old, new, hnode, hold, by rw [hnode]; rfl⟩
  · exact Or.inl rfl

theorem SameShape.children_eq (h : t.SameShape t') (i : NodeId) : t'.children i = t.children i := by
  rcases h.node?_eq i with hsame | ⟨n, old, new, hnode, -, hnode'⟩
  · rw [children, children, hsame]
  · rw [Tree.children_eq hnode, Tree.children_eq hnode']

theorem SameShape.parent?_eq (h : t.SameShape t') (i : NodeId) : t'.parent? i = t.parent? i := by
  rcases h.node?_eq i with hsame | ⟨n, old, new, hnode, -, hnode'⟩
  · rw [parent?, parent?, hsame]
  · rw [parent?, parent?, hnode, hnode']
    rfl

theorem SameShape.element?_eq (h : t.SameShape t') (i : NodeId) : t'.element? i = t.element? i := by
  rcases h.node?_eq i with hsame | ⟨⟨content, parent, children⟩, old, new, hnode, hold, hnode'⟩
  · rw [element?, element?, hsame]
  · rw [element?, element?, hnode, hnode', show content = _ from hold]

theorem SameShape.placed?_eq (h : t.SameShape t') (i : NodeId) : t'.placed? i = t.placed? i := by
  rcases h.node?_eq i with hsame | ⟨⟨content, parent, children⟩, old, new, hnode, hold, hnode'⟩
  · rw [placed?, placed?, hsame]
  · rw [placed?, placed?, hnode, hnode', show content = _ from hold]

theorem SameShape.isBare (h : t.SameShape t') (hi : t.IsBare i) : t'.IsBare i := by
  obtain ⟨m, hm, hbare, hempty⟩ := hi
  rcases h.node?_eq i with hsame | ⟨n, old, new, hnode, -, hnode'⟩
  · exact ⟨m, hsame.trans hm, hbare, hempty⟩
  · obtain rfl : m = n := Option.some.inj (hm.symm.trans hnode)
    exact ⟨_, hnode', rfl, hempty⟩

theorem SameShape.below (h : t.SameShape t') (hij : t.Below i j) : t'.Below i j := by
  induction hij with
  | self => exact .self
  | child _ hc ih => exact ih.child (by rwa [h.children_eq])

theorem SameShape.atEnd (h : t.SameShape t') (hi : t.AtEnd i) : t'.AtEnd i := by
  induction hi with
  | root => exact .root
  | @child q c before after _ hchildren hafter ih =>
      exact .child before after ih (by rwa [h.children_eq]) fun a ha => h.isBare (hafter a ha)

theorem SameShape.elementsTo_eq (h : t.SameShape t') (depth : Nat) (i : NodeId) :
    t'.elementsTo depth i = t.elementsTo depth i := by
  induction depth generalizing i with
  | zero => rfl
  | succ depth ih =>
      rw [elementsTo_succ, elementsTo_succ, h.element?_eq, h.children_eq]
      exact congrArg _ (List.flatMap_congr fun c _ => ih c)

theorem InOrder.sameShape (ht : t.InOrder) (h : t.SameShape t') : t'.InOrder := by
  refine ⟨⟨?_, fun hc => ?_, fun hc => ?_, fun hc => ?_, fun p => ?_⟩, ?_⟩
  · obtain ⟨n, hnode, hcontent⟩ := ht.root_eq
    rcases h.node?_eq root with hsame | ⟨m, old, new, hm, hold, -⟩
    · exact ⟨n, hsame.trans hnode, hcontent⟩
    · obtain rfl : n = m := Option.some.inj (hnode.symm.trans hm)
      rw [hcontent] at hold
      cases hold
  · exact ht.lt_child (by rwa [h.children_eq] at hc)
  · rw [h.size_eq]
    exact ht.child_lt (by rwa [h.children_eq] at hc)
  · rw [h.parent?_eq]
    exact ht.parent?_eq (by rwa [h.children_eq] at hc)
  · rw [h.children_eq]
    exact ht.nodup p
  · have hwalk : t'.inOrder = t.inOrder := by
      rw [inOrder, inOrder, h.size_eq, h.elementsTo_eq]
    rw [hwalk, ← ht.elements_eq, Tree.elements_eq, Tree.elements_eq, h.size_eq]
    exact List.filterMap_congr fun i _ => h.placed?_eq i

end Tree

end LinkSurvey.Html
