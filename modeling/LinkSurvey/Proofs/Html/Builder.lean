import LinkSurvey.Html.Builder.Dispatch
import LinkSurvey.Proofs.Html.Tree

/-!
What the tree builder makes of plain content. Between two elements it stands in the head or in the body of
the document, with nothing else open; an element that holds nothing, that is closed at once or that holds
only text leads back there, and the tree has gained this element and nothing else. The parts themselves are
made when the first element comes that needs them, and at the latest at the end of the input.
-/

namespace LinkSurvey.Html.Build

variable {b b' : Builder} {t t' : Token} {tag : Tag} {fuel : Nat}

/-! ### Looking at a token -/

theorem run_bind {α β : Type} {x : Build α} {f : α → Build β} {a : α} (h : x.run b = (a, b')) :
    (x >>= f).run b = (f a).run b' := by
  rw [StateT.run_bind, h]
  rfl

theorem finish_done (hlook : (look t).run b = (.done, b')) (hclosing : isSelfClosing t = false) (fuel : Nat) :
    (finish (fuel + 1) [t]).run b = (none, b') := by
  simp only [finish, StateT.run_bind, hlook, hclosing]
  rfl

theorem finish_closed (hlook : (look t).run b = (.closed, b')) (fuel : Nat) :
    (finish (fuel + 1) [t]).run b = (none, b') := by
  simp only [finish, StateT.run_bind, hlook]
  rfl

theorem finish_rawText {kind : RawKind} (hlook : (look t).run b = (.rawText kind, b')) (fuel : Nat) :
    (finish (fuel + 1) [t]).run b = (some (.rawText kind), b') := by
  simp only [finish, StateT.run_bind, hlook]
  rfl

theorem finish_again {mode : Mode} (hlook : (look t).run b = (.again mode t', b')) (fuel : Nat) :
    (finish (fuel + 1) [t]).run b = (finish fuel [t']).run { b' with mode } := by
  simp only [finish, StateT.run_bind, hlook]
  rfl

theorem run_get (b : Builder) : (get : Build Builder).run b = (b, b) :=
  rfl

/-! ### Insertion -/

/-- The current element is this one, and new nodes go to its end. -/
structure Current (b : Builder) (p : NodeId) (e : Element) : Prop where
  opened_eq : b.opened.head? = some p
  element_eq : b.tree.element? p = some e
  isHtml : e.space = .html
  name_ne : e.name ≠ "template"
  fostering_eq : b.fostering = false

theorem Current.isForeign {p : NodeId} {e : Element} (h : Current b p e) (t : Token) : isForeign b t = false := by
  simp [Build.isForeign, h.opened_eq, h.element_eq, h.isHtml]

theorem Current.look {p : NodeId} {e : Element} (h : Current b p e) (t : Token) :
    (look t).run b = (inMode b.mode t).run b := by
  simp [Build.look, h.isForeign t]

/-- New nodes go to the end of the current element, which stays where it is while they are made. -/
theorem Current.currentPlace {p : NodeId} {e : Element} (h : Current b p e) : currentPlace b = .lastChild p := by
  have hname : hasName b.tree "template" p = false := by
    simp [hasName, Build.isHtml, h.element_eq, h.name_ne]
  simp [Build.currentPlace, placeIn, h.opened_eq, h.fostering_eq, hname, List.headD_eq_head?_getD]

theorem Current.add {p : NodeId} {e : Element} (h : Current b p e) (content : Content) :
    Current { b with tree := (b.tree.add content).1 } p e :=
  ⟨h.opened_eq, (Tree.element?_add content (Tree.lt_size_of_element? h.element_eq)).trans h.element_eq, h.isHtml,
    h.name_ne, h.fostering_eq⟩

theorem create_run {e : Element} (he : e.name ≠ "template") (b : Builder) :
    (create e).run b = (b.tree.nodes.size, { b with tree := (b.tree.add (.element e)).1 }) := by
  have hrun : (create e).run b = ((b.tree.addElement e).2, { b with tree := (b.tree.addElement e).1 }) := rfl
  have hadd : b.tree.addElement e = b.tree.add (.element e) := by
    simp [Tree.addElement, he]
  rw [hrun, hadd]
  rfl

theorem insertElement_run {p : NodeId} {frame e : Element} (h : Current b p frame) (he : e.name ≠ "template")
    (isOpen : Bool) :
    (insertElement isOpen e).run b = (b.tree.nodes.size, { b with
      tree := b.tree.grow p (.element e)
      opened := if isOpen then b.tree.nodes.size :: b.opened else b.opened }) := by
  have hplace := (h.add (.element e)).currentPlace
  rw [insertElement, StateT.run_bind, create_run he b]
  cases isOpen with
  | true =>
      change (_, { b with tree := insertAt _ (Build.currentPlace _) _, opened := _ }) = _
      rw [hplace]
      rfl
  | false =>
      change (_, { b with tree := insertAt _ (Build.currentPlace _) _ }) = _
      rw [hplace]
      rfl

/-! ### Between elements -/

/-- The parts of a document that hold its content. -/
inductive Part where
  | head
  | body

def Part.mode : Part → Mode
  | .head => .inHead
  | .body => .inBody

def Part.element : Part → Element
  | .head => { name := "head" }
  | .body => { name := "body" }

/-- A builder that waits for nothing in particular. -/
structure Calm (b : Builder) : Prop where
  fostering_eq : b.fostering = false
  templateModes_eq : b.templateModes = []
  skipLineFeed_eq : b.skipLineFeed = false

theorem Calm.clear_eq (h : Calm b) : { b with skipLineFeed := false } = b := by
  rw [← h.skipLineFeed_eq]

/-- Tags and the end of the input are looked at a fixed number of times. -/
theorem Calm.take_eq (h : Calm b) (t : Token) (hdoctype : ∀ d, t ≠ .doctype d) (htext : ∀ k s, t ≠ .text k s) :
    (take t).run b = (finish 48 [t]).run b := by
  have hpatience : patience b t = 48 := by
    cases t with
    | text k s => exact absurd rfl (htext k s)
    | _ => simp [patience, h.templateModes_eq]
  have htake : (take t).run b = (finish (patience b t) [t]).run { b with skipLineFeed := false } := by
    cases t with
    | doctype d => exact absurd rfl (hdoctype d)
    | text k s => exact absurd rfl (htext k s)
    | _ => rfl
  rw [htake, hpatience, h.clear_eq]

theorem Calm.take_unsplit (h : Calm b) {piece : Text} (hpiece : piece ≠ []) :
    ∃ fuel, (take (.text .unsplit piece)).run b = (finish (fuel + 1) [.text .unsplit piece]).run b := by
  obtain ⟨fuel, hfuel⟩ : ∃ fuel, patience b (.text .unsplit piece) = fuel + 1 :=
    Nat.exists_eq_succ_of_ne_zero (by simp [patience])
  have hset : (set { b with skipLineFeed := false } : Build Unit).run b = ((), b) := by
    rw [h.clear_eq]
    rfl
  refine ⟨fuel, ?_⟩
  rw [take, run_bind (run_get b), run_bind hset, ← hfuel]
  simp [h.skipLineFeed_eq, hpiece]

/-- A builder between two elements of a part, which is open at this node in the root. -/
structure Stands (b : Builder) (part : Part) (p root : NodeId) : Prop extends Calm b where
  formatting_eq : b.formatting = []
  mode_eq : b.mode = part.mode
  opened_eq : b.opened = [p, root]
  part_eq : b.tree.element? p = some part.element
  root_eq : b.tree.element? root = some { name := "html" }

/-- A builder in the text of an element, which is the last one that a tree has gained. -/
structure InText (b : Builder) (part : Part) (p root : NodeId) (t : Tree) (e : Element) (text : Text) : Prop
    extends Calm b where
  formatting_eq : b.formatting = []
  mode_eq : b.mode = .text
  returnMode_eq : b.returnMode = part.mode
  opened_eq : b.opened = [t.nodes.size, p, root]
  part_eq : t.element? p = some part.element
  root_eq : t.element? root = some { name := "html" }
  gains : t.Gains p e text b.tree

variable {part : Part} {p root : NodeId} {e : Element} {text : Text}

theorem Stands.current (h : Stands b part p root) : Current b p part.element := by
  refine ⟨by rw [h.opened_eq]; rfl, h.part_eq, ?_, ?_, h.fostering_eq⟩
  · cases part <;> rfl
  · cases part <;> decide

/-- Nothing but the tree has changed, apart from what no part of a document depends on. -/
theorem Stands.of_gains {t : Tree} (h : Stands b part p root) (hgains : b.tree.Gains p e text t)
    (framesetOk : Bool) (errors : Nat) : Stands { b with tree := t, framesetOk, errors } part p root where
  formatting_eq := h.formatting_eq
  fostering_eq := h.fostering_eq
  templateModes_eq := h.templateModes_eq
  skipLineFeed_eq := h.skipLineFeed_eq
  mode_eq := h.mode_eq
  opened_eq := h.opened_eq
  part_eq := hgains.element?_eq.trans h.part_eq
  root_eq := (hgains.element?_of_lt (Tree.lt_size_of_element? h.root_eq)).trans h.root_eq

theorem Stands.gains (h : Stands b part p root) (e : Element) :
    b.tree.Gains p e [] (b.tree.grow p (.element e)) :=
  Tree.gains_grow e (Tree.lt_size_of_element? h.part_eq)

theorem Stands.look_eq (h : Stands b part p root) (t : Token) : (look t).run b = (inMode part.mode t).run b := by
  rw [h.current.look, h.mode_eq]

/-! ### Elements that hold nothing -/

theorem Stands.look_link (h : Stands b part p root) (attributes : Attributes) :
    ∃ b', (look (.start ⟨"link", attributes, false⟩)).run b = (.closed, b') ∧ Stands b' part p root
      ∧ b.tree.Gains p { name := "link", attributes } [] b'.tree := by
  have hgains := h.gains { name := "link", attributes }
  refine ⟨{ b with tree := b.tree.grow p (.element { name := "link", attributes }) }, ?_,
    h.of_gains hgains b.framesetOk b.errors, hgains⟩
  have hmode : inMode part.mode (.start ⟨"link", attributes, false⟩)
      = (do let _ ← insertElement false { name := "link", attributes }; return .closed) := by
    cases part <;> rfl
  rw [h.look_eq, hmode, run_bind (insertElement_run h.current (by simp) false)]
  rfl

theorem reconstruct_run (h : b.formatting = []) : reconstruct.run b = ((), b) := by
  rw [reconstruct, run_bind (run_get b), h]
  rfl

theorem Stands.look_img (h : Stands b .body p root) (attributes : Attributes) :
    ∃ b', (look (.start ⟨"img", attributes, false⟩)).run b = (.closed, b') ∧ Stands b' .body p root
      ∧ b.tree.Gains p { name := "img", attributes } [] b'.tree := by
  have hgains := h.gains { name := "img", attributes }
  refine ⟨{ b with tree := b.tree.grow p (.element { name := "img", attributes }), framesetOk := false }, ?_,
    h.of_gains hgains false b.errors, hgains⟩
  have hmode : inMode Part.body.mode (.start ⟨"img", attributes, false⟩)
      = (do
        reconstruct
        let _ ← insertElement false { name := "img", attributes }
        spoilFrameset
        return .closed) := rfl
  rw [h.look_eq, hmode, run_bind (reconstruct_run h.formatting_eq),
    run_bind (insertElement_run h.current (by simp) false)]
  rfl

/-! ### Elements that hold text -/

theorem Stands.insertRaw (h : Stands b part p root) (tag : Tag) (hname : tag.name ≠ "template") (kind : RawKind) :
    ∃ b', (insertRaw tag kind).run b = (.rawText kind, b')
      ∧ InText b' part p root b.tree { name := tag.name, attributes := tag.attributes } [] := by
  refine ⟨{ b with
    tree := b.tree.grow p (.element { name := tag.name, attributes := tag.attributes })
    opened := b.tree.nodes.size :: b.opened, returnMode := b.mode, mode := .text }, ?_, ?_⟩
  · have hinsert : (insertFor tag).run b = ((), { b with
        tree := b.tree.grow p (.element { name := tag.name, attributes := tag.attributes })
        opened := b.tree.nodes.size :: b.opened }) := by
      rw [insertFor, run_bind (insertElement_run h.current hname true)]
      rfl
    rw [Build.insertRaw, run_bind hinsert]
    rfl
  · exact ⟨⟨h.fostering_eq, h.templateModes_eq, h.skipLineFeed_eq⟩, h.formatting_eq, rfl, h.mode_eq,
      congrArg _ h.opened_eq, h.part_eq, h.root_eq, h.gains _⟩

theorem Stands.look_raw (h : Stands b part p root) (tag : Tag) (hname : tag.name ≠ "template") {kind : RawKind}
    (hmode : inMode part.mode (.start tag) = Build.insertRaw tag kind) :
    ∃ b', (look (.start tag)).run b = (.rawText kind, b')
      ∧ InText b' part p root b.tree { name := tag.name, attributes := tag.attributes } [] := by
  rw [h.look_eq, hmode]
  exact h.insertRaw tag hname kind

theorem Stands.look_script (h : Stands b part p root) (attributes : Attributes) :
    ∃ b', (look (.start ⟨"script", attributes, false⟩)).run b = (.rawText .script, b')
      ∧ InText b' part p root b.tree { name := "script", attributes } [] :=
  h.look_raw ⟨"script", attributes, false⟩ (by simp) (by cases part <;> rfl)

theorem Stands.look_style (h : Stands b part p root) (attributes : Attributes) :
    ∃ b', (look (.start ⟨"style", attributes, false⟩)).run b = (.rawText .raw, b')
      ∧ InText b' part p root b.tree { name := "style", attributes } [] :=
  h.look_raw ⟨"style", attributes, false⟩ (by simp) (by cases part <;> rfl)

theorem Stands.look_iframe (h : Stands b .body p root) (attributes : Attributes) :
    ∃ b', (look (.start ⟨"iframe", attributes, false⟩)).run b = (.rawText .raw, b')
      ∧ InText b' .body p root b.tree { name := "iframe", attributes } [] := by
  have hspoiled : Stands { b with framesetOk := false } .body p root :=
    ⟨⟨h.fostering_eq, h.templateModes_eq, h.skipLineFeed_eq⟩, h.formatting_eq, h.mode_eq, h.opened_eq, h.part_eq,
      h.root_eq⟩
  rw [h.look_eq]
  exact hspoiled.insertRaw ⟨"iframe", attributes, false⟩ (by simp) .raw

theorem InText.current {t : Tree} (h : InText b part p root t e text) (hspace : e.space = .html)
    (hname : e.name ≠ "template") : Current b t.nodes.size e :=
  ⟨by rw [h.opened_eq]; rfl, h.gains.leaf.element?, hspace, hname, h.fostering_eq⟩

theorem InText.look_eq {t : Tree} (h : InText b part p root t e text) (hspace : e.space = .html)
    (hname : e.name ≠ "template") (token : Token) : (look token).run b = (inText token).run b := by
  rw [(h.current hspace hname).look, h.mode_eq]
  rfl

/-- A piece of text goes to the end of the element. -/
theorem InText.take_text {t : Tree} (h : InText b part p root t e text) (hspace : e.space = .html)
    (hname : e.name ≠ "template") {piece : Text} (hpiece : piece ≠ []) :
    InText ((take (.text .unsplit piece)).run b).2 part p root t e (text ++ piece) := by
  have hlook : (look (.text .unsplit piece)).run b
      = (.done, { b with tree := b.tree.appendText t.nodes.size piece }) := by
    rw [h.look_eq hspace hname]
    change (Outcome.done, { b with tree := insertTextAt b.tree (currentPlace b) piece }) = _
    rw [(h.current hspace hname).currentPlace]
    rfl
  obtain ⟨fuel, htake⟩ := h.take_unsplit hpiece
  rw [htake, finish_done hlook rfl]
  exact ⟨⟨h.fostering_eq, h.templateModes_eq, h.skipLineFeed_eq⟩, h.formatting_eq, h.mode_eq, h.returnMode_eq,
    h.opened_eq, h.part_eq, h.root_eq, h.gains.appendText (Tree.lt_size_of_element? h.part_eq) piece⟩

/-- The end tag leads back to the part that the element is in. -/
theorem InText.take_stop {t : Tree} (h : InText b part p root t e text) (hspace : e.space = .html)
    (hname : e.name ≠ "template") (tag : Tag) :
    Stands ((take (.stop tag)).run b).2 part p root ∧ t.Gains p e text ((take (.stop tag)).run b).2.tree := by
  have hlook : (look (.stop tag)).run b
      = (.done, { b with opened := b.opened.drop 1, mode := b.returnMode }) := by
    rw [h.look_eq hspace hname]
    rfl
  rw [h.take_eq _ (by simp) (by simp), finish_done hlook rfl]
  refine ⟨⟨⟨h.fostering_eq, h.templateModes_eq, h.skipLineFeed_eq⟩, h.formatting_eq, h.returnMode_eq, ?_, ?_, ?_⟩,
    h.gains⟩
  · rw [h.opened_eq]
    rfl
  · exact h.gains.element?_eq.trans h.part_eq
  · exact (h.gains.element?_of_lt (Tree.lt_size_of_element? h.root_eq)).trans h.root_eq

/-! ### Formatting elements -/

/-- The first formatting element is opened and listed. -/
theorem insertFormatting_run {frame : Element} (h : Current b p frame) (hformatting : b.formatting = [])
    (tag : Tag) (hname : tag.name ≠ "template") :
    (insertFormatting tag).run b = ((), { b with
      tree := b.tree.grow p (.element { name := tag.name, attributes := tag.attributes })
      opened := b.tree.nodes.size :: b.opened
      formatting := [.element b.tree.nodes.size tag] }) := by
  have hinsert := insertElement_run (e := { name := tag.name, attributes := tag.attributes }) h hname true
  rw [insertFormatting, run_bind (run_get b)]
  have hnone : ∀ alike : Entry → Bool, ¬((sinceMarker []).filter alike).length ≥ 3 := fun alike => by
    simp [sinceMarker]
  simp only [hformatting, if_neg (hnone _)]
  rw [run_bind hinsert]
  change ((), { b with tree := _, opened := _, formatting := .element b.tree.nodes.size tag :: b.formatting }) = _
  rw [hformatting]
  rfl

/-- The end tag of the only formatting element, if that is the current element, closes it and forgets it. -/
theorem adopt_run {i : NodeId} {outer : List NodeId} (tag : Tag) (hopened : b.opened = i :: outer)
    (hlisted : b.formatting = [.element i tag]) :
    (adopt tag.name).run b = ((), { b with opened := outer, formatting := [] }) := by
  have honce : (adoptOnce tag.name).run b = (false, { b with opened := outer, formatting := [] }) := by
    have hunlist : (unlist i).run { b with opened := outer, formatting := [.element i tag] }
        = ((), { b with opened := outer, formatting := [] }) := by
      change ((), { b with opened := outer, formatting := [Entry.element i tag].eraseP (Entry.isNode i) }) = _
      simp [Entry.isNode]
    rw [adoptOnce, run_bind (run_get b)]
    simp [hopened, hlisted, sinceMarker, scopeHas, hunlist]
    rfl
  have hlist : isListed b i = true := by
    simp [isListed, hlisted, Entry.isNode]
  rw [adopt, run_bind (run_get b)]
  simp only [hopened, List.head?_cons, hlist, Bool.not_true, Bool.and_false, Bool.false_eq_true, if_false]
  rw [adoptRounds, run_bind honce]
  rfl

theorem closeOuterLink_run (h : b.formatting = []) : closeOuterLink.run b = ((), b) := by
  rw [closeOuterLink, run_bind (run_get b), h]
  rfl

/-- A builder that has opened a hyperlink at this node. -/
def linked (b : Builder) (p : NodeId) (attributes : Attributes) : Builder := { b with
  tree := b.tree.grow p (.element { name := "a", attributes })
  opened := b.tree.nodes.size :: b.opened
  formatting := [.element b.tree.nodes.size ⟨"a", attributes, false⟩] }

theorem Stands.look_a (h : Stands b .body p root) (attributes : Attributes) :
    (look (.start ⟨"a", attributes, false⟩)).run b = (.done, linked b p attributes) := by
  have hmode : inMode Part.body.mode (.start ⟨"a", attributes, false⟩)
      = (do
        closeOuterLink
        reconstruct
        insertFormatting ⟨"a", attributes, false⟩
        return .done) := rfl
  rw [h.look_eq, hmode, run_bind (closeOuterLink_run h.formatting_eq), run_bind (reconstruct_run h.formatting_eq),
    run_bind (insertFormatting_run h.current h.formatting_eq _ (by simp))]
  rfl

/-- A hyperlink that is closed at once leaves nothing behind but itself. -/
theorem Stands.take_stop_a (h : Stands b .body p root) (attributes : Attributes) :
    (take (.stop ⟨"a", [], false⟩)).run (linked b p attributes)
      = (none, { b with tree := b.tree.grow p (.element { name := "a", attributes }) }) := by
  have hcalm : Calm (linked b p attributes) :=
    ⟨h.fostering_eq, h.templateModes_eq, h.skipLineFeed_eq⟩
  have hcurrent : Current (linked b p attributes) b.tree.nodes.size { name := "a", attributes } :=
    ⟨rfl, (h.gains { name := "a", attributes }).leaf.element?, rfl, by simp, h.fostering_eq⟩
  have hmode : (linked b p attributes).mode = Part.body.mode :=
    h.mode_eq
  have hstop : inMode Part.body.mode (.stop ⟨"a", [], false⟩) = (do adopt "a"; return .done) := rfl
  have hadopt : (adopt "a").run (linked b p attributes)
      = ((), { linked b p attributes with opened := b.opened, formatting := [] }) :=
    adopt_run ⟨"a", attributes, false⟩ rfl rfl
  have hlook : (look (.stop ⟨"a", [], false⟩)).run (linked b p attributes)
      = (.done, { linked b p attributes with opened := b.opened, formatting := [] }) := by
    rw [hcurrent.look, hmode, hstop, run_bind hadopt]
    rfl
  rw [hcalm.take_eq _ (by simp) (by simp), finish_done hlook rfl, linked]
  simp only [h.formatting_eq]

/-! ### Parts that no tag opens -/

/-- A builder that knows the document type and nothing else yet. -/
structure Fresh (b : Builder) : Prop extends Calm b where
  formatting_eq : b.formatting = []
  mode_eq : b.mode = .beforeHtml
  opened_eq : b.opened = []
  root_lt : Tree.root < b.tree.nodes.size
  elements_eq : b.tree.elements = []

/-- Tokens that the root and the head are made for. -/
structure OpensHead (t : Token) : Prop where
  beforeHtml_eq : beforeHtml t = beforeHtml.other t
  beforeHead_eq : beforeHead t = beforeHead.other t

/-- Tokens that the body is made for. -/
structure OpensBody (t : Token) : Prop extends OpensHead t where
  inHead_eq : inHead t = inHead.other t
  afterHead_eq : afterHead t = afterHead.other t

variable {leaves : List (Element × Text)}

theorem Fresh.look_again (h : Fresh b) (ht : OpensHead t) :
    (look t).run b = (.again .beforeHead t, { b with
      tree := b.tree.grow Tree.root (.element { name := "html" }), opened := [b.tree.nodes.size] }) := by
  have hlook : (look t).run b = (beforeHtml.other t).run b := by
    have hforeign : isForeign b t = false := by
      simp [isForeign, h.opened_eq]
    rw [look, run_bind (run_get b), hforeign, h.mode_eq, ← ht.beforeHtml_eq]
    rfl
  have hroot : (createRoot []).run b = ((), { b with
      tree := b.tree.grow Tree.root (.element { name := "html" }), opened := [b.tree.nodes.size] }) := by
    rw [createRoot, run_bind (create_run (by simp) b)]
    change ((), { b with tree := _, opened := b.tree.nodes.size :: b.opened }) = _
    rw [h.opened_eq]
    rfl
  rw [hlook, beforeHtml.other, run_bind hroot]
  rfl

/-- The root and the head come before the first content. -/
theorem Fresh.exists_head (h : Fresh b) (ht : OpensHead t) :
    ∃ b' p root, Stands b' .head p root ∧ b'.tree.Bears []
      ∧ ∀ fuel, (finish (fuel + 2) [t]).run b = (finish fuel [t]).run b' := by
  have htree := Tree.gains_grow { name := "html" } h.root_lt
  generalize hgrown : b.tree.grow Tree.root (.element { name := "html" }) = tree at htree
  have hroot : Current { b with tree, opened := [b.tree.nodes.size], mode := .beforeHead } b.tree.nodes.size
      { name := "html" } :=
    ⟨rfl, htree.leaf.element?, rfl, by simp, h.fostering_eq⟩
  have hgains := Tree.gains_grow { name := "head" } (Tree.lt_size_of_element? hroot.element_eq)
  have henter : (look t).run { b with tree, opened := [b.tree.nodes.size], mode := .beforeHead }
      = (.again .inHead t, { b with
        tree := tree.grow b.tree.nodes.size (.element { name := "head" })
        opened := [tree.nodes.size, b.tree.nodes.size], mode := .beforeHead, head := some tree.nodes.size }) := by
    rw [hroot.look]
    change (beforeHead t).run _ = _
    rw [ht.beforeHead_eq, beforeHead.other, insertImplied, run_bind (insertElement_run hroot (by simp) true)]
    rfl
  have hbare : tree.Bears [] := by
    rw [Tree.Bears, htree.elements_eq, h.elements_eq]
    exact .nil
  refine ⟨{ b with
    tree := tree.grow b.tree.nodes.size (.element { name := "head" })
    opened := [tree.nodes.size, b.tree.nodes.size], mode := .inHead, head := some tree.nodes.size },
    tree.nodes.size, b.tree.nodes.size, ?_, ?_, fun fuel => ?_⟩
  · exact ⟨⟨h.fostering_eq, h.templateModes_eq, h.skipLineFeed_eq⟩, h.formatting_eq, rfl, rfl,
      hgains.leaf.element?, hgains.element?_eq.trans hroot.element_eq⟩
  · exact hbare.gains hroot.element_eq rfl hgains
  · rw [finish_again (h.look_again ht), hgrown, finish_again henter]

/-- The body comes before the first content that has no place in the head. -/
theorem Stands.exists_body (h : Stands b .head p root) (hleaves : b.tree.Bears leaves) (ht : OpensBody t) :
    ∃ b' p', Stands b' .body p' root ∧ b'.tree.Bears leaves
      ∧ ∀ fuel, (finish (fuel + 2) [t]).run b = (finish fuel [t]).run b' := by
  have hroot : Current { b with opened := [root], mode := .afterHead } root { name := "html" } :=
    ⟨rfl, h.root_eq, rfl, by simp, h.fostering_eq⟩
  have hleave : (look t).run b = (.again .afterHead t, { b with opened := [root] }) := by
    rw [h.look_eq]
    change (inHead t).run b = _
    rw [ht.inHead_eq]
    change (Outcome.again .afterHead t, { b with opened := b.opened.drop 1 }) = _
    rw [h.opened_eq]
    rfl
  have hgains := Tree.gains_grow (t := b.tree) { name := "body" } (Tree.lt_size_of_element? h.root_eq)
  have henter : (look t).run { b with opened := [root], mode := .afterHead } = (.again .inBody t, { b with
      opened := [b.tree.nodes.size, root], mode := .afterHead
      tree := b.tree.grow root (.element { name := "body" }) }) := by
    rw [hroot.look]
    change (afterHead t).run _ = _
    rw [ht.afterHead_eq, afterHead.other, insertImplied, run_bind (insertElement_run hroot (by simp) true)]
    rfl
  refine ⟨{ b with
    opened := [b.tree.nodes.size, root], mode := .inBody
    tree := b.tree.grow root (.element { name := "body" }) }, b.tree.nodes.size, ?_, ?_, fun fuel => ?_⟩
  · exact ⟨⟨h.fostering_eq, h.templateModes_eq, h.skipLineFeed_eq⟩, h.formatting_eq, rfl, rfl,
      hgains.leaf.element?, hgains.element?_eq.trans h.root_eq⟩
  · exact hleaves.gains h.root_eq rfl hgains
  · rw [finish_again hleave, finish_again henter]

/-! ### From one element to the next -/

/-- An element that a part gains comes after those that are there. -/
theorem bears_append {t t' : Tree} (hpart : t.element? p = some part.element) (hleaves : t.Bears leaves)
    (hgains : t.Gains p e text t') (he : Tree.isFrame e = false) : t'.Bears (leaves ++ [(e, text)]) := by
  have hframe : Tree.isFrame part.element = true := by
    cases part <;> rfl
  have hbears := hleaves.gains hpart hframe hgains
  rwa [he, if_neg (by decide)] at hbears

/-- A builder between elements, with these in its tree so far. -/
inductive Standing (b : Builder) : List (Element × Text) → Prop where
  | fresh (h : Fresh b) : Standing b []
  | within {part : Part} {p root : NodeId} {leaves : List (Element × Text)} (h : Stands b part p root)
      (hleaves : b.tree.Bears leaves) : Standing b leaves

theorem Standing.calm (h : Standing b leaves) : Calm b := by
  cases h with
  | fresh h => exact h.toCalm
  | within h _ => exact h.toCalm

/-- A token for the head is looked at again until there is a part that it can go to. -/
theorem Standing.exists_part (h : Standing b leaves) (ht : OpensHead t) :
    ∃ b' part p root n, n ≤ 2 ∧ Stands b' part p root ∧ b'.tree.Bears leaves
      ∧ ∀ fuel, (finish (fuel + n) [t]).run b = (finish fuel [t]).run b' := by
  cases h with
  | fresh h =>
      obtain ⟨b', p, root, hstands, hleaves, hfinish⟩ := h.exists_head ht
      exact ⟨b', .head, p, root, 2, Nat.le_refl 2, hstands, hleaves, hfinish⟩
  | @within part p root _ h hleaves => exact ⟨b, part, p, root, 0, Nat.zero_le 2, h, hleaves, fun fuel => rfl⟩

/-- A token for the body is looked at again until there is one. -/
theorem Standing.exists_body (h : Standing b leaves) (ht : OpensBody t) :
    ∃ b' p root n, n ≤ 4 ∧ Stands b' .body p root ∧ b'.tree.Bears leaves
      ∧ ∀ fuel, (finish (fuel + n) [t]).run b = (finish fuel [t]).run b' := by
  obtain ⟨b₁, part, p, root, n, hn, hstands, hleaves, hfinish⟩ := h.exists_part ht.toOpensHead
  cases part with
  | body => exact ⟨b₁, p, root, n, by omega, hstands, hleaves, hfinish⟩
  | head =>
      obtain ⟨b₂, p₂, hstands₂, hleaves₂, hfinish₂⟩ := hstands.exists_body hleaves ht
      refine ⟨b₂, p₂, root, 2 + n, by omega, hstands₂, hleaves₂, fun fuel => ?_⟩
      rw [← Nat.add_assoc, hfinish, hfinish₂]

theorem Standing.take_part (h : Standing b leaves) (tag : Tag) (ht : OpensHead (.start tag)) :
    ∃ b' part p root fuel, Stands b' part p root ∧ b'.tree.Bears leaves
      ∧ (take (.start tag)).run b = (finish (fuel + 1) [.start tag]).run b' := by
  obtain ⟨b', part, p, root, n, hn, hstands, hleaves, hfinish⟩ := h.exists_part ht
  refine ⟨b', part, p, root, 47 - n, hstands, hleaves, ?_⟩
  rw [h.calm.take_eq _ (by simp) (by simp), ← hfinish, show 47 - n + 1 + n = 48 by omega]

theorem Standing.take_body (h : Standing b leaves) (ht : OpensBody t) (hdoctype : ∀ d, t ≠ .doctype d)
    (htext : ∀ k s, t ≠ .text k s) :
    ∃ b' p root fuel, Stands b' .body p root ∧ b'.tree.Bears leaves
      ∧ (take t).run b = (finish (fuel + 1) [t]).run b' := by
  obtain ⟨b', p, root, n, hn, hstands, hleaves, hfinish⟩ := h.exists_body ht
  refine ⟨b', p, root, 47 - n, hstands, hleaves, ?_⟩
  rw [h.calm.take_eq _ hdoctype htext, ← hfinish, show 47 - n + 1 + n = 48 by omega]

theorem Standing.take_link (h : Standing b leaves) (attributes : Attributes) :
    ∃ b', (take (.start ⟨"link", attributes, false⟩)).run b = (none, b')
      ∧ Standing b' (leaves ++ [({ name := "link", attributes }, [])]) := by
  obtain ⟨b₁, part, p, root, fuel, hstands, hleaves, htake⟩ :=
    h.take_part ⟨"link", attributes, false⟩ ⟨rfl, rfl⟩
  obtain ⟨b', hlook, hstands', hgains⟩ := hstands.look_link attributes
  exact ⟨b', htake.trans (finish_closed hlook fuel),
    .within hstands' (bears_append hstands.part_eq hleaves hgains rfl)⟩

theorem Standing.take_img (h : Standing b leaves) (attributes : Attributes) :
    ∃ b', (take (.start ⟨"img", attributes, false⟩)).run b = (none, b')
      ∧ Standing b' (leaves ++ [({ name := "img", attributes }, [])]) := by
  obtain ⟨b₁, p, root, fuel, hstands, hleaves, htake⟩ :=
    h.take_body (t := .start ⟨"img", attributes, false⟩) ⟨⟨rfl, rfl⟩, rfl, rfl⟩ (by simp) (by simp)
  obtain ⟨b', hlook, hstands', hgains⟩ := hstands.look_img attributes
  exact ⟨b', htake.trans (finish_closed hlook fuel),
    .within hstands' (bears_append hstands.part_eq hleaves hgains rfl)⟩

theorem Standing.take_a (h : Standing b leaves) (attributes : Attributes) :
    ∃ b', (take (.start ⟨"a", attributes, false⟩)).run b = (none, b')
      ∧ Standing ((take (.stop ⟨"a", [], false⟩)).run b').2 (leaves ++ [({ name := "a", attributes }, [])]) := by
  obtain ⟨b₁, p, root, fuel, hstands, hleaves, htake⟩ :=
    h.take_body (t := .start ⟨"a", attributes, false⟩) ⟨⟨rfl, rfl⟩, rfl, rfl⟩ (by simp) (by simp)
  have hgains := hstands.gains { name := "a", attributes }
  refine ⟨linked b₁ p attributes, htake.trans (finish_done (hstands.look_a attributes) rfl fuel), ?_⟩
  rw [hstands.take_stop_a attributes]
  exact .within (hstands.of_gains hgains b₁.framesetOk b₁.errors)
    (bears_append hstands.part_eq hleaves hgains rfl)

/-- In the text of an element of this name, which comes after these elements. -/
inductive Reading (b : Builder) (e : Element) (leaves : List (Element × Text)) : Text → Prop where
  | mk {part : Part} {p root : NodeId} {t : Tree} {text : Text} (h : InText b part p root t e text)
      (hleaves : t.Bears leaves) : Reading b e leaves text

theorem Standing.take_script (h : Standing b leaves) (attributes : Attributes) :
    ∃ b', (take (.start ⟨"script", attributes, false⟩)).run b = (some (.rawText .script), b')
      ∧ Reading b' { name := "script", attributes } leaves [] := by
  obtain ⟨b₁, part, p, root, fuel, hstands, hleaves, htake⟩ :=
    h.take_part ⟨"script", attributes, false⟩ ⟨rfl, rfl⟩
  obtain ⟨b', hlook, htext⟩ := hstands.look_script attributes
  exact ⟨b', htake.trans (finish_rawText hlook fuel), .mk htext hleaves⟩

theorem Standing.take_style (h : Standing b leaves) (attributes : Attributes) :
    ∃ b', (take (.start ⟨"style", attributes, false⟩)).run b = (some (.rawText .raw), b')
      ∧ Reading b' { name := "style", attributes } leaves [] := by
  obtain ⟨b₁, part, p, root, fuel, hstands, hleaves, htake⟩ :=
    h.take_part ⟨"style", attributes, false⟩ ⟨rfl, rfl⟩
  obtain ⟨b', hlook, htext⟩ := hstands.look_style attributes
  exact ⟨b', htake.trans (finish_rawText hlook fuel), .mk htext hleaves⟩

theorem Standing.take_iframe (h : Standing b leaves) (attributes : Attributes) :
    ∃ b', (take (.start ⟨"iframe", attributes, false⟩)).run b = (some (.rawText .raw), b')
      ∧ Reading b' { name := "iframe", attributes } leaves [] := by
  obtain ⟨b₁, p, root, fuel, hstands, hleaves, htake⟩ :=
    h.take_body (t := .start ⟨"iframe", attributes, false⟩) ⟨⟨rfl, rfl⟩, rfl, rfl⟩ (by simp) (by simp)
  obtain ⟨b', hlook, htext⟩ := hstands.look_iframe attributes
  exact ⟨b', htake.trans (finish_rawText hlook fuel), .mk htext hleaves⟩

/-- Text comes in pieces. -/
theorem Reading.take_pieces (h : Reading b e leaves text) (hspace : e.space = .html) (hname : e.name ≠ "template")
    {pieces : List Text} (hpieces : ∀ piece ∈ pieces, piece ≠ []) :
    Reading (pieces.foldl (fun b piece => ((take (.text .unsplit piece)).run b).2) b) e leaves
      (text ++ pieces.flatten) := by
  induction pieces generalizing b text with
  | nil => simpa using h
  | cons piece pieces ih =>
      obtain ⟨hpiece, hpieces⟩ := List.forall_mem_cons.1 hpieces
      obtain ⟨htext, hleaves⟩ := h
      rw [List.foldl_cons, List.flatten_cons, ← List.append_assoc]
      exact ih (.mk (htext.take_text hspace hname hpiece) hleaves) hpieces

theorem Reading.take_stop (h : Reading b e leaves text) (hspace : e.space = .html) (hname : e.name ≠ "template")
    (he : Tree.isFrame e = false) (tag : Tag) :
    Standing ((take (.stop tag)).run b).2 (leaves ++ [(e, text)]) := by
  obtain ⟨htext, hleaves⟩ := h
  obtain ⟨hstands, hgains⟩ := htext.take_stop hspace hname tag
  exact .within hstands (bears_append htext.part_eq hleaves hgains he)

theorem checkBodyEnd_run (b : Builder) : ∃ errors, checkBodyEnd.run b = ((), { b with errors }) := by
  cases hends : b.opened.all fun i => isHtml b.tree endableNames.contains i with
  | true =>
      refine ⟨b.errors, ?_⟩
      rw [checkBodyEnd, run_bind (run_get b), hends]
      rfl
  | false =>
      refine ⟨b.errors + 1, ?_⟩
      rw [checkBodyEnd, run_bind (run_get b), hends]
      rfl

/-- At the end of the input the parts are there, and nothing else is new. -/
theorem Standing.take_eof (h : Standing b leaves) : ((take .eof).run b).2.tree.Bears leaves := by
  obtain ⟨b₁, p, root, fuel, hstands, hleaves, htake⟩ :=
    h.take_body (t := .eof) ⟨⟨rfl, rfl⟩, rfl, rfl⟩ (by simp) (by simp)
  obtain ⟨errors, hcheck⟩ := checkBodyEnd_run b₁
  have hlook : (look .eof).run b₁ = (.done, { b₁ with errors }) := by
    rw [hstands.look_eq]
    change bodyEof.run b₁ = _
    have hempty : b₁.templateModes.isEmpty = true := List.isEmpty_iff.2 hstands.templateModes_eq
    rw [bodyEof, run_bind (run_get b₁), if_pos hempty, run_bind hcheck]
    rfl
  rw [htake, finish_done hlook rfl]
  exact hleaves

end LinkSurvey.Html.Build
