import LinkSurvey.Html.Tree
import Mathlib.Data.List.Basic
import Mathlib.Data.List.Forall2

/-!
How a tree grows. A new node is put at the end of one that is there, and text at the end of an element;
neither moves or changes anything else. So an element that holds nothing but text keeps it while others
are put into the tree, and the elements of a tree are those of the tree it grew from, and the new one.
-/

namespace LinkSurvey.Html.Tree

variable {t t' : Tree} {i j p : NodeId} {e : Element} {text : Text}

theorem node?_update (t : Tree) (i j : NodeId) (f : Node → Node) :
    (t.update i f).node? j = if i = j then (t.node? j).map f else t.node? j :=
  Array.getElem?_modify

theorem node?_add (t : Tree) (content : Content) (j : NodeId) :
    (t.add content).1.node? j = if j = t.nodes.size then some { content } else t.node? j :=
  Array.getElem?_push

theorem lt_size_of_node? {n : Node} (h : t.node? i = some n) : i < t.nodes.size :=
  (Array.getElem?_eq_some_iff.1 h).1

theorem element?_eq_some : t.element? i = some e ↔ ∃ n, t.node? i = some n ∧ n.content = .element e := by
  rw [element?]
  constructor
  · intro h
    split at h
    · rename_i hnode
      exact ⟨_, hnode, congrArg Content.element (Option.some.inj h)⟩
    · cases h
  · rintro ⟨⟨content, parent, children⟩, hnode, rfl⟩
    rw [hnode]

theorem lt_size_of_element? (h : t.element? i = some e) : i < t.nodes.size := by
  obtain ⟨n, hnode, -⟩ := element?_eq_some.1 h
  exact lt_size_of_node? hnode

/-! ### A new node -/

theorem element?_add (content : Content) (hj : j < t.nodes.size) :
    (t.add content).1.element? j = t.element? j := by
  rw [element?, element?, node?_add, if_neg (Nat.ne_of_lt hj)]

/-- Make a node and put it at the end of another one. -/
def grow (t : Tree) (p : NodeId) (content : Content) : Tree :=
  (t.add content).1.append p t.nodes.size

/-- A new node has no parent that it would have to be taken from. -/
theorem grow_eq (t : Tree) (p : NodeId) (content : Content) :
    t.grow p content = ((t.add content).1.update t.nodes.size fun n => { n with parent := some p }).update p
      fun n => { n with children := n.children ++ [t.nodes.size] } := by
  have hparent : (t.add content).1.parent? t.nodes.size = none := by
    rw [parent?, node?_add, if_pos rfl]
    rfl
  rw [grow, append, detach, hparent]

theorem size_grow (t : Tree) (p : NodeId) (content : Content) :
    (t.grow p content).nodes.size = t.nodes.size + 1 := by
  rw [grow_eq]
  simp [update, add]

theorem node?_grow (content : Content) (hp : p < t.nodes.size) (j : NodeId) :
    (t.grow p content).node? j =
      if j = t.nodes.size then some { content, parent := some p }
      else if j = p then (t.node? p).map fun n => { n with children := n.children ++ [t.nodes.size] }
      else t.node? j := by
  simp only [grow_eq, node?_update, node?_add]
  grind

theorem element?_grow (content : Content) (hp : p < t.nodes.size) (hj : j < t.nodes.size) :
    (t.grow p content).element? j = t.element? j := by
  rw [element?, element?, node?_grow content hp, if_neg (Nat.ne_of_lt hj)]
  split_ifs with hjp
  · rw [hjp]
    cases t.node? p with
    | none => rfl
    | some n => cases n with | mk content parent children => cases content <;> rfl
  · rfl

/-! ### The elements of a tree -/

/-- A node with the element that it is, if it is one and part of the document. -/
def placed? (t : Tree) (i : NodeId) : Option (NodeId × Element) :=
  match t.node? i with
  | some { content := .element e, parent := some _, .. } => some (i, e)
  | _ => none

theorem elements_eq (t : Tree) : t.elements = (List.range t.nodes.size).filterMap t.placed? :=
  rfl

theorem placed?_grow (content : Content) (hp : p < t.nodes.size) (hj : j < t.nodes.size) :
    (t.grow p content).placed? j = t.placed? j := by
  rw [placed?, placed?, node?_grow content hp, if_neg (Nat.ne_of_lt hj)]
  split_ifs with hjp
  · rw [hjp]
    cases t.node? p with
    | none => rfl
    | some n =>
        cases n with
        | mk content parent children => cases content <;> cases parent <;> rfl
  · rfl

theorem elements_grow (content : Content) (hp : p < t.nodes.size) :
    (t.grow p content).elements
      = t.elements ++ ((t.grow p content).placed? t.nodes.size).toList := by
  have hold : (List.range t.nodes.size).filterMap (t.grow p content).placed?
      = (List.range t.nodes.size).filterMap t.placed? :=
    List.filterMap_congr fun j hj => placed?_grow content hp (List.mem_range.1 hj)
  rw [elements_eq, elements_eq, size_grow, List.range_succ, List.filterMap_append, hold, List.filterMap_cons]
  cases (t.grow p content).placed? t.nodes.size <;> rfl

/-! ### Elements with nothing but text in them -/

/-- An element of the document that holds this text, which was made after it, and nothing else. -/
inductive IsLeaf (t : Tree) (i : NodeId) (e : Element) : Text → Prop where
  | empty {p : NodeId} (hnode : t.node? i = some { content := .element e, parent := some p }) : IsLeaf t i e []
  | text {p j : NodeId} {text : Text} (hlater : i < j)
      (hnode : t.node? i = some { content := .element e, parent := some p, children := [j] })
      (htext : t.node? j = some { content := .text text, parent := some i }) : IsLeaf t i e text

theorem IsLeaf.element? (h : t.IsLeaf i e text) : t.element? i = some e := by
  cases h with
  | empty hnode => exact element?_eq_some.2 ⟨_, hnode, rfl⟩
  | text _ hnode _ => exact element?_eq_some.2 ⟨_, hnode, rfl⟩

theorem IsLeaf.textOf (h : t.IsLeaf i e text) : t.textOf i = text := by
  cases h with
  | empty hnode => simp [Tree.textOf, textTo, hnode]
  | text _ hnode htext =>
      obtain ⟨depth, hdepth⟩ : ∃ depth, t.nodes.size = depth + 1 :=
        Nat.exists_eq_succ_of_ne_zero (Nat.ne_of_gt (Nat.zero_lt_of_lt (lt_size_of_node? hnode)))
      simp [Tree.textOf, hdepth, textTo, hnode, htext]

/-- A leaf depends on itself and its text only, so it stays if an element changes that it is not. -/
theorem IsLeaf.of_node?_eq (h : t.IsLeaf i e text)
    (hsame : ∀ j < t.nodes.size, j ≠ p → t'.node? j = t.node? j) {parent : Element}
    (hparent : t.element? p = some parent) (hi : i ≠ p) : t'.IsLeaf i e text := by
  cases h with
  | empty hnode => exact .empty ((hsame i (lt_size_of_node? hnode) hi).trans hnode)
  | @text _ j _ hlater hnode htext =>
      have hj : j ≠ p := by
        rintro rfl
        rw [Tree.element?, htext] at hparent
        cases hparent
      exact .text hlater ((hsame i (lt_size_of_node? hnode) hi).trans hnode)
        ((hsame j (lt_size_of_node? htext) hj).trans htext)

/-- The first text in an element is a new node. -/
theorem appendText_empty {n : Node} (hnode : t.node? i = some n) (hchildren : n.children = []) (piece : Text) :
    t.appendText i piece = t.grow i (.text piece) := by
  rw [appendText, children, hnode, Option.map_some, Option.getD_some, hchildren]
  rfl

/-- Text after text is put into the same node. -/
theorem appendText_text {n : Node} (hnode : t.node? i = some n) (hchildren : n.children = [j]) {q : NodeId}
    (htext : t.node? j = some { content := .text text, parent := some q }) (piece : Text) :
    t.appendText i piece = t.update j fun n => { n with content := .text (text ++ piece) } := by
  simp [appendText, children, hnode, hchildren, extendText, htext]

theorem IsLeaf.appendText (h : t.IsLeaf i e text) (piece : Text) :
    (t.appendText i piece).IsLeaf i e (text ++ piece) := by
  cases h with
  | @empty p hnode =>
      have hi := lt_size_of_node? hnode
      rw [appendText_empty hnode rfl]
      refine .text (p := p) hi ?_ ?_
      · rw [node?_grow _ hi, if_neg (Nat.ne_of_lt hi), if_pos rfl, hnode]
        rfl
      · rw [node?_grow _ hi, if_pos rfl, List.nil_append]
  | @text p j _ hlater hnode htext =>
      rw [appendText_text hnode rfl htext]
      refine .text (p := p) hlater ?_ ?_
      · rw [node?_update, if_neg (Nat.ne_of_gt hlater), hnode]
      · rw [node?_update, if_pos rfl, htext]
        rfl

theorem IsLeaf.elements_appendText (h : t.IsLeaf i e text) (piece : Text) :
    (t.appendText i piece).elements = t.elements := by
  cases h with
  | empty hnode =>
      have hi := lt_size_of_node? hnode
      rw [appendText_empty hnode rfl, elements_grow _ hi, placed?, node?_grow _ hi, if_pos rfl]
      exact List.append_nil _
  | @text _ j _ _ hnode htext =>
      have hsize : (t.update j fun n => { n with content := .text (text ++ piece) }).nodes.size = t.nodes.size :=
        Array.size_modify
      rw [appendText_text hnode rfl htext, elements_eq, elements_eq, hsize]
      refine List.filterMap_congr fun k _ => ?_
      rw [placed?, placed?, node?_update]
      split_ifs with hjk
      · rw [← hjk, htext]
        rfl
      · rfl

/-- Text in an element changes no node that was made before the element. -/
theorem IsLeaf.node?_appendText (h : t.IsLeaf i e text) (piece : Text) (hj : j < i) :
    (t.appendText i piece).node? j = t.node? j := by
  cases h with
  | empty hnode =>
      have hi := lt_size_of_node? hnode
      rw [appendText_empty hnode rfl, node?_grow _ hi, if_neg (Nat.ne_of_lt (Nat.lt_trans hj hi)),
        if_neg (Nat.ne_of_lt hj)]
  | text hlater hnode htext =>
      rw [appendText_text hnode rfl htext, node?_update, if_neg (Nat.ne_of_gt (Nat.lt_trans hj hlater))]

/-! ### One more leaf -/

/-- One tree is the other with one more element in `p`, which holds this text and nothing else. -/
structure Gains (t : Tree) (p : NodeId) (e : Element) (text : Text) (t' : Tree) : Prop where
  elements_eq : t'.elements = t.elements ++ [(t.nodes.size, e)]
  leaf : t'.IsLeaf t.nodes.size e text
  node?_eq : ∀ j < t.nodes.size, j ≠ p → t'.node? j = t.node? j
  element?_eq : t'.element? p = t.element? p

theorem gains_grow (e : Element) (hp : p < t.nodes.size) : t.Gains p e [] (t.grow p (.element e)) := by
  have hnode : (t.grow p (.element e)).node? t.nodes.size = some { content := .element e, parent := some p } := by
    rw [node?_grow _ hp, if_pos rfl]
  refine ⟨?_, .empty hnode, fun j hj hjp => ?_, element?_grow _ hp hp⟩
  · rw [elements_grow _ hp, placed?, hnode]
    rfl
  · rw [node?_grow _ hp, if_neg (Nat.ne_of_lt hj), if_neg hjp]

theorem Gains.appendText (h : t.Gains p e text t') (hp : p < t.nodes.size) (piece : Text) :
    t.Gains p e (text ++ piece) (t'.appendText t.nodes.size piece) := by
  refine ⟨?_, h.leaf.appendText piece, fun j hj hjp => ?_, ?_⟩
  · rw [h.leaf.elements_appendText, h.elements_eq]
  · rw [h.leaf.node?_appendText piece hj, h.node?_eq j hj hjp]
  · rw [← h.element?_eq, element?, element?, h.leaf.node?_appendText piece hp]

/-- Nothing but `p` changes among the elements that were there. -/
theorem Gains.element?_of_lt (h : t.Gains p e text t') (hj : j < t.nodes.size) : t'.element? j = t.element? j := by
  by_cases hjp : j = p
  · rw [hjp, h.element?_eq]
  · rw [element?, element?, h.node?_eq j hj hjp]

/-! ### The content of a document -/

/-- The elements that every document has. -/
def isFrame (e : Element) : Bool :=
  ["html", "head", "body"].contains e.name

/-- These elements hold nothing but these texts. -/
def AreLeaves (t : Tree) : List (NodeId × Element) → List (Element × Text) → Prop :=
  List.Forall₂ fun x leaf => x.2 = leaf.1 ∧ t.IsLeaf x.1 leaf.1 leaf.2

/-- Apart from those that every document has, the elements of a tree are these, in the order in which they
were made. -/
def Bears (t : Tree) (leaves : List (Element × Text)) : Prop :=
  t.AreLeaves (t.elements.filter fun x => !isFrame x.2) leaves

variable {leaves : List (Element × Text)} {frame : Element}

/-- A frame is none of the leaves, so they are what they were when it gains an element. -/
theorem AreLeaves.of_gains {placed : List (NodeId × Element)} (h : t.AreLeaves placed leaves)
    (hplaced : ∀ x ∈ placed, isFrame x.2 = false) (hp : t.element? p = some frame) (hframe : isFrame frame = true)
    (hgains : t.Gains p e text t') : t'.AreLeaves placed leaves := by
  induction h with
  | nil => exact .nil
  | @cons x leaf placed leaves hx _ ih =>
      obtain ⟨hx', hrest⟩ := List.forall_mem_cons.1 hplaced
      refine .cons ⟨hx.1, hx.2.of_node?_eq hgains.node?_eq hp ?_⟩ (ih hrest)
      rintro rfl
      have hsame : frame = x.2 := by
        rw [hx.1, ← Option.some_inj, ← hp, hx.2.element?]
      rw [hsame, hx'] at hframe
      cases hframe

theorem Bears.gains (h : t.Bears leaves) (hp : t.element? p = some frame) (hframe : isFrame frame = true)
    (hgains : t.Gains p e text t') : t'.Bears (if isFrame e then leaves else leaves ++ [(e, text)]) := by
  have hold : t'.AreLeaves (t.elements.filter fun x => !isFrame x.2) leaves := by
    refine AreLeaves.of_gains h (fun x hx => ?_) hp hframe hgains
    rw [← Bool.not_eq_true']
    exact (List.mem_filter.1 hx).2
  rw [Bears, hgains.elements_eq, List.filter_append]
  cases he : isFrame e with
  | true =>
      rw [List.filter_cons_of_neg (by simp [he]), List.filter_nil, List.append_nil, if_pos rfl]
      exact hold
  | false =>
      rw [List.filter_cons_of_pos (by simp [he]), List.filter_nil, if_neg (by decide)]
      exact List.rel_append hold (.cons ⟨rfl, hgains.leaf⟩ .nil)

theorem AreLeaves.filterMap_eq {placed : List (NodeId × Element)} (h : t.AreLeaves placed leaves) {α : Type}
    (f : Element → Text → Option α) :
    placed.filterMap (fun x => f x.2 (t.textOf x.1)) = leaves.filterMap fun leaf => f leaf.1 leaf.2 := by
  induction h with
  | nil => rfl
  | cons hx _ ih => rw [List.filterMap_cons, List.filterMap_cons, ih, hx.1, hx.2.textOf]

/-- What is read off the elements of a name, by their attributes and their texts. -/
theorem Bears.filterMap_named (h : t.Bears leaves) {name : String} (hname : isFrame { name } = false)
    {α : Type} (f : Element → Text → Option α) :
    (t.elements.filter fun x => x.2.name == name).filterMap (fun x => f x.2 (t.textOf x.1))
      = leaves.filterMap fun leaf => if leaf.1.name = name then f leaf.1 leaf.2 else none := by
  rw [← AreLeaves.filterMap_eq h fun e text => if e.name = name then f e text else none, List.filterMap_filter,
    List.filterMap_filter]
  refine List.filterMap_congr fun x _ => ?_
  by_cases hx : x.2.name = name
  · have hframe : isFrame x.2 = false := by
      rw [← hname, isFrame, isFrame, hx]
    simp [hx, hframe]
  · simp [hx]

end LinkSurvey.Html.Tree
