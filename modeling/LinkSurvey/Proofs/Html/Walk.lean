import LinkSurvey.Proofs.Html.Linked
import Mathlib.Data.List.Nodup
import Mathlib.Data.List.Perm.Subperm

/-!
A walk through a linked tree. There is one way from the document to each node below it, since a node has one parent and
the document has none; so a walk comes to each of them once, and no way is longer than there are nodes. What it does not
come to hangs from something that is not below the document.
-/

namespace LinkSurvey.Html.Tree

/-- The nodes on the way from the document to a node, the node itself first. -/
inductive Way (t : Tree) : List NodeId → NodeId → Prop where
  | root : Way t [root] root
  | child {way : List NodeId} {p c : NodeId} (h : Way t way p) (hc : c ∈ t.children p) : Way t (c :: way) c

variable {t : Tree} {way way' : List NodeId} {i j p c : NodeId} {e : Element}

/-! ### Ways -/

theorem Way.unique (ht : t.Linked) (h : t.Way way i) (h' : t.Way way' i) : way = way' := by
  induction h generalizing way' with
  | root =>
      cases h' with
      | root => rfl
      | child _ hc =>
          have hparent := ht.parent?_eq hc
          rw [ht.parent?_root] at hparent
          cases hparent
  | child _ hc ih =>
      cases h' with
      | root =>
          have hparent := ht.parent?_eq hc
          rw [ht.parent?_root] at hparent
          cases hparent
      | child h' hc' =>
          obtain rfl := Option.some.inj ((ht.parent?_eq hc).symm.trans (ht.parent?_eq hc'))
          rw [ih h']

/-- The way to a node goes on to what is below it. -/
theorem Way.extend (h : t.Way way i) (hij : t.Below i j) : ∃ inner, t.Way (inner ++ way) j := by
  induction hij with
  | self => exact ⟨[], h⟩
  | @child p c _ hc ih =>
      obtain ⟨inner, hway⟩ := ih
      exact ⟨c :: inner, hway.child hc⟩

/-- What a way goes through has a way of its own, which is a part of it. -/
theorem Way.exists_of_mem (h : t.Way way i) (hj : j ∈ way) : ∃ inner outer, way = inner ++ outer ∧ t.Way outer j := by
  induction h with
  | root =>
      obtain rfl := List.mem_singleton.1 hj
      exact ⟨[], [Tree.root], rfl, .root⟩
  | @child way p c h hc ih =>
      rcases List.mem_cons.1 hj with rfl | hj
      · exact ⟨[], j :: way, rfl, h.child hc⟩
      · obtain ⟨inner, outer, rfl, houter⟩ := ih hj
        exact ⟨c :: inner, outer, rfl, houter⟩

theorem Way.nodup (ht : t.Linked) (h : t.Way way i) : way.Nodup := by
  induction h with
  | root => exact List.nodup_singleton Tree.root
  | @child way p c h hc ih =>
      refine List.nodup_cons.2 ⟨fun hmem => ?_, ih⟩
      obtain ⟨inner, outer, hsplit, houter⟩ := h.exists_of_mem hmem
      have hlength := congrArg List.length ((h.child hc).unique ht houter)
      rw [hsplit, List.length_cons, List.length_append] at hlength
      omega

theorem Way.lt_size (ht : t.Linked) (h : t.Way way i) : i < t.nodes.size := by
  cases h with
  | root =>
      obtain ⟨n, hnode, -⟩ := ht.root_eq
      exact lt_size_of_node? hnode
  | child _ hc =>
      obtain ⟨n, hnode, -⟩ := ht.isPart hc
      exact lt_size_of_node? hnode

/-- No way is longer than there are nodes. -/
theorem Way.length_le (ht : t.Linked) (h : t.Way way i) : way.length ≤ t.nodes.size := by
  have hrange : way ⊆ List.range t.nodes.size := by
    intro j hj
    obtain ⟨_, _, -, hway⟩ := h.exists_of_mem hj
    exact List.mem_range.2 (hway.lt_size ht)
  have hlength := (List.subperm_of_subset (h.nodup ht) hrange).length_le
  rwa [List.length_range] at hlength

/-- Nodes that hang from the same one have nothing below them in common. -/
theorem Way.eq_of_below (ht : t.Linked) (h : t.Way way p) {c c' : NodeId} (hc : c ∈ t.children p)
    (hc' : c' ∈ t.children p) (hcj : t.Below c j) (hcj' : t.Below c' j) : c = c' := by
  obtain ⟨inner, hway⟩ := (h.child hc).extend hcj
  obtain ⟨inner', hway'⟩ := (h.child hc').extend hcj'
  have hsame := hway.unique ht hway'
  exact (List.cons.inj (List.append_inj_right' hsame rfl)).1

theorem Way.not_below_child (ht : t.Linked) (h : t.Way way p) (hc : c ∈ t.children p) : ¬t.Below c p := by
  intro hcp
  obtain ⟨inner, hway⟩ := (h.child hc).extend hcp
  have hlength := congrArg List.length (hway.unique ht h)
  rw [List.length_append, List.length_cons] at hlength
  omega

/-! ### The walk -/

theorem Below.exists_child (h : t.Below i j) : i = j ∨ ∃ c ∈ t.children i, t.Below c j := by
  induction h with
  | self => exact .inl rfl
  | @child p c _ hc ih =>
      rcases ih with rfl | ⟨d, hd, hdp⟩
      · exact .inr ⟨c, hc, .self⟩
      · exact .inr ⟨d, hd, hdp.child hc⟩

theorem below_of_mem_elementsTo {depth : Nat} (h : (j, e) ∈ t.elementsTo depth i) :
    t.Below i j ∧ t.element? j = some e := by
  induction depth generalizing i with
  | zero => cases h
  | succ depth ih =>
      rw [elementsTo_succ] at h
      rcases List.mem_append.1 h with hself | hinside
      · obtain ⟨e', helement, hsame⟩ := Option.map_eq_some_iff.1 (Option.mem_toList.1 hself)
        cases hsame
        exact ⟨.self, helement⟩
      · obtain ⟨c, hc, hmem⟩ := List.mem_flatMap.1 hinside
        obtain ⟨hcj, helement⟩ := ih hmem
        exact ⟨(Below.self.child hc).trans hcj, helement⟩

theorem mem_elementsTo_of_below (ht : t.Linked) (h : t.Way way i) {depth : Nat}
    (hdepth : t.nodes.size < depth + way.length) (hij : t.Below i j) (he : t.element? j = some e) :
    (j, e) ∈ t.elementsTo depth i := by
  induction depth generalizing i way with
  | zero =>
      have hlength := h.length_le ht
      omega
  | succ depth ih =>
      rw [elementsTo_succ]
      rcases hij.exists_child with rfl | ⟨c, hc, hcj⟩
      · rw [he]
        exact List.mem_append_left _ (List.mem_singleton_self _)
      · refine List.mem_append_right _ (List.mem_flatMap.2 ⟨c, hc, ih (h.child hc) ?_ hcj⟩)
        rw [List.length_cons]
        omega

theorem nodup_elementsTo (ht : t.Linked) (h : t.Way way i) (depth : Nat) :
    ((t.elementsTo depth i).map Prod.fst).Nodup := by
  induction depth generalizing i way with
  | zero => exact List.nodup_nil
  | succ depth ih =>
      have hbelow : ∀ {c j : NodeId}, j ∈ (t.elementsTo depth c).map Prod.fst → t.Below c j := by
        intro c j hj
        obtain ⟨⟨_, e⟩, hmem, rfl⟩ := List.mem_map.1 hj
        exact (below_of_mem_elementsTo hmem).1
      rw [elementsTo_succ, List.map_append, List.map_flatMap]
      refine List.nodup_append.2 ⟨?_, List.nodup_flatMap.2 ⟨fun c hc => ih (h.child hc), ?_⟩, ?_⟩
      · cases t.element? i with
        | none => exact List.nodup_nil
        | some e => exact List.nodup_singleton i
      · refine (ht.nodup i).imp_of_mem fun hc hd hne => ?_
        intro j hj hj'
        exact hne (h.eq_of_below ht hc hd (hbelow hj) (hbelow hj'))
      · rintro j hself k hinside rfl
        obtain ⟨c, hc, hj⟩ := List.mem_flatMap.1 hinside
        obtain ⟨⟨_, e⟩, hmem, rfl⟩ := List.mem_map.1 hself
        obtain ⟨e', -, hsame⟩ := Option.map_eq_some_iff.1 (Option.mem_toList.1 hmem)
        cases hsame
        exact h.not_below_child ht hc (hbelow hj)

/-- A walk through the document comes to the elements below it. -/
theorem Linked.mem_inOrder (ht : t.Linked) :
    (i, e) ∈ t.inOrder ↔ t.element? i = some e ∧ t.Below root i := by
  constructor
  · intro h
    exact (below_of_mem_elementsTo h).symm
  · rintro ⟨he, h⟩
    exact mem_elementsTo_of_below ht .root (Nat.lt_succ_self _) h he

theorem Linked.nodup_inOrder (ht : t.Linked) : (t.inOrder.map Prod.fst).Nodup :=
  nodup_elementsTo ht .root _

/-! ### All elements -/

/-- Elements that hang from something that is not below the document. -/
def loose (t : Tree) : List (NodeId × Element) :=
  t.elements.filter (· ∉ t.inOrder)

theorem placed?_eq_some {x : NodeId × Element} :
    t.placed? i = some x ↔ x.1 = i ∧ t.element? i = some x.2 ∧ (t.parent? i).isSome := by
  rw [placed?, element?, parent?]
  cases t.node? i with
  | none =>
      constructor
      · rintro ⟨⟩
      · rintro ⟨-, ⟨⟩, -⟩
  | some n =>
      obtain ⟨content, parent, children⟩ := n
      cases content with
      | element e =>
          cases parent with
          | none =>
              constructor
              · rintro ⟨⟩
              · rintro ⟨-, -, ⟨⟩⟩
          | some p =>
              obtain ⟨j, e'⟩ := x
              constructor
              · intro h
                cases h
                exact ⟨rfl, rfl, rfl⟩
              · rintro ⟨rfl, h, -⟩
                cases h
                rfl
      | _ =>
          constructor
          · rintro ⟨⟩
          · rintro ⟨-, ⟨⟩, -⟩

theorem mem_elements : (i, e) ∈ t.elements ↔ t.element? i = some e ∧ (t.parent? i).isSome := by
  rw [elements_eq, List.mem_filterMap]
  constructor
  · rintro ⟨j, -, hplaced⟩
    obtain ⟨rfl, h⟩ := placed?_eq_some.1 hplaced
    exact h
  · rintro h
    exact ⟨i, List.mem_range.2 (lt_size_of_element? h.1), placed?_eq_some.2 ⟨rfl, h⟩⟩

theorem nodup_elements (t : Tree) : (t.elements.map Prod.fst).Nodup := by
  rw [elements_eq, List.map_filterMap]
  refine List.nodup_range.filterMap fun i i' j hj hj' => ?_
  obtain ⟨x, hx, rfl⟩ := Option.map_eq_some_iff.1 hj
  obtain ⟨x', hx', hsame⟩ := Option.map_eq_some_iff.1 hj'
  rw [← (placed?_eq_some.1 hx).1, ← (placed?_eq_some.1 hx').1, hsame]

/-- The elements in the order in which they were made are those of the walk and the loose ones. -/
theorem Linked.elements_perm (ht : t.Linked) : t.elements.Perm (t.inOrder ++ t.loose) := by
  have hinside : ∀ x ∈ t.inOrder, x ∈ t.elements := by
    rintro ⟨i, e⟩ hx
    obtain ⟨he, hbelow⟩ := ht.mem_inOrder.1 hx
    refine mem_elements.2 ⟨he, ?_⟩
    cases hbelow with
    | self => exact absurd rfl ((isPart_of_element? ⟨e, he⟩).ne_root ht)
    | child _ hc =>
        rw [ht.parent?_eq hc]
        rfl
  have hwalk : (t.elements.filter (· ∈ t.inOrder)).Perm t.inOrder := by
    refine (List.perm_ext_iff_of_nodup ((nodup_elements t).of_map.filter _) ht.nodup_inOrder.of_map).2 fun x => ?_
    rw [List.mem_filter, decide_eq_true_eq]
    exact ⟨And.right, fun hx => ⟨hinside x hx, hx⟩⟩
  have hloose : t.loose = t.elements.filter fun x => !decide (x ∈ t.inOrder) :=
    List.filter_congr fun x _ => decide_not
  rw [hloose]
  exact (List.filter_append_perm _ t.elements).symm.trans (hwalk.append_right _)

end LinkSurvey.Html.Tree
