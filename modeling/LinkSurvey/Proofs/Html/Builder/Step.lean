import LinkSurvey.Html.Builder.Dispatch
import Mathlib.Logic.Relation

/-!
What a tree builder can do. Whatever rules apply to a token, they come down to few steps: new nodes go to the current
place, open elements are closed, modes change. What moves nodes that are there, or inserts in front of a table, is done
only after something was found to be out of order. A rule is followed in steps, so what every step keeps is kept by
every rule.
-/

namespace LinkSurvey.Html

/-! ### Modes -/

/-- Modes in which there is a root element. -/
def Mode.isLate : Mode → Bool
  | .initial | .beforeHtml => false
  | _ => true

/-- Modes that end with a return to the mode before. -/
def Mode.isPassing : Mode → Bool
  | .text | .inTableText => true
  | _ => false

def Mode.isPlain (mode : Mode) : Bool :=
  mode.isLate && !mode.isPassing

theorem Mode.isLate_of_isPassing {mode : Mode} (h : mode.isPassing = true) : mode.isLate = true := by
  cases mode <;> trivial

theorem Mode.isLate_of_isPlain {mode : Mode} (h : mode.isPlain = true) : mode.isLate = true := by
  cases mode <;> trivial

theorem Mode.not_isPassing_of_isPlain {mode : Mode} (h : mode.isPlain = true) : ¬mode.isPassing = true := by
  cases mode <;> trivial

namespace Builder

/-- Whether a builder may go on in a mode. -/
def Allows (b : Builder) (mode : Mode) : Prop :=
  0 < b.errors ∨ mode.isLate = true ∧ (mode.isPassing = true → b.returnMode.isLate = true)

/-- Modes that are kept for later are modes with a root element, and before there is one nothing is open. -/
structure InTurn (b : Builder) : Prop where
  isPlain : ∀ mode ∈ b.templateModes, mode.isPlain = true
  isLate : b.mode.isPassing = true → b.returnMode.isLate = true
  opened_eq : b.mode.isLate = false → b.opened = []

/-- A builder that can take in a token, or that has met something out of order. -/
def IsReady (b : Builder) : Prop :=
  0 < b.errors ∨ b.InTurn

/-- There is a root element, or something was out of order. -/
structure IsSettled (b : Builder) : Prop where
  isReady : b.IsReady
  late : 0 < b.errors ∨ b.mode.isLate = true

/-- A builder with a new element, open or already closed, in the current place. -/
def insert (b : Builder) (isOpen : Bool) (e : Element) : Builder :=
  let (tree, i) := b.tree.addElement e
  { b with
    tree := Build.insertAt tree (Build.currentPlace { b with tree }) i
    opened := if isOpen then i :: b.opened else b.opened }

/-- A builder with a root element. -/
def withRoot (b : Builder) (attributes : Attributes) : Builder :=
  let (tree, i) := b.tree.addElement { name := "html", attributes }
  { b with tree := tree.append Tree.root i, opened := i :: b.opened, mode := .beforeHead }

/-- A builder with a comment in some place. -/
def withComment (b : Builder) (place : Build.Place) : Builder :=
  { b with tree := Build.insertAt (b.tree.add .comment).1 place b.tree.nodes.size }

/-! ### Steps -/

/-- An element is put somewhere else or nowhere, or all that is in a node is put into another one. -/
inductive Moved (t : Tree) : Tree → Prop where
  | detach (i : NodeId) : Moved t (t.detach i)
  | append (p : NodeId) {i : NodeId} (h : ∃ e, t.element? i = some e) : Moved t (t.append p i)
  | insertBefore (sibling : NodeId) {i : NodeId} (h : ∃ e, t.element? i = some e) : Moved t (t.insertBefore sibling i)
  | moveChildren (source target : NodeId) : Moved t (t.moveChildren source target)

inductive Step (b : Builder) : Builder → Prop where
  | fail : Step b { b with errors := b.errors + 1 }
  /-- Notes that are made for later. -/
  | note (tableText : List (Blankness × Text)) (quirks : Bool) (formatting : List Entry) (head form : Option NodeId)
      (framesetOk skipLineFeed : Bool) :
      Step b { b with tableText, quirks, formatting, head, form, framesetOk, skipLineFeed }
  | templateModes {modes : List Mode} (h : ∀ mode ∈ modes, mode.isPlain = true ∨ mode ∈ b.templateModes) :
      Step b { b with templateModes := modes }
  | keepMode : Step b { b with returnMode := b.mode }
  | setMode {mode : Mode} (h : b.Allows mode) : Step b { b with mode }
  | resetMode : Step b { b with mode := Build.modeFor b b.opened }
  | close {opened : List NodeId} (h : opened.Sublist b.opened) : Step b { b with opened }
  | doctype (h : b.mode = .initial) (quirks : Bool) :
      Step b { b with
        tree := (b.tree.add .doctype).1.append Tree.root b.tree.nodes.size, quirks, mode := .beforeHtml }
  | root (h : b.mode = .beforeHtml) (attributes : Attributes) : Step b (b.withRoot attributes)
  | insert (h : 0 < b.errors ∨ b.mode.isLate = true) (isOpen : Bool) (e : Element) : Step b (b.insert isOpen e)
  | text (text : Text) : Step b { b with tree := Build.insertTextAt b.tree (Build.currentPlace b) text }
  | comment : Step b (b.withComment (Build.currentPlace b))
  | commentTo {p : NodeId} (h : p = Tree.root ∨ p ∈ b.opened) : Step b (b.withComment (.lastChild p))
  -- What follows is done where something is out of order.
  | make (h : 0 < b.errors) (e : Element) : Step b { b with tree := (b.tree.addElement e).1 }
  | move (h : 0 < b.errors) {tree : Tree} (hmoved : Moved b.tree tree) : Step b { b with tree }
  | amend (h : 0 < b.errors) (i : NodeId) (attributes : Attributes) :
      Step b ((Build.addMissing i attributes).run b).2
  | reopen (h : 0 < b.errors) (opened : List NodeId) : Step b { b with opened }
  | foster (h : 0 < b.errors) (fostering : Bool) : Step b { b with fostering }

/-- Any number of steps. -/
abbrev Steps : Builder → Builder → Prop :=
  Relation.ReflTransGen Step

variable {b b' : Builder}

theorem Step.errors_le (h : Step b b') : b.errors ≤ b'.errors := by
  cases h with
  | fail => exact Nat.le_succ _
  | _ => exact Nat.le_refl _

theorem Steps.errors_le (h : Steps b b') : b.errors ≤ b'.errors := by
  induction h with
  | refl => exact Nat.le_refl _
  | tail _ h ih => exact Nat.le_trans ih h.errors_le

theorem isPlain_modeFor (h : ∀ mode ∈ b.templateModes, mode.isPlain = true) (opened : List NodeId) :
    (Build.modeFor b opened).isPlain = true := by
  have htemplate : (b.templateModes.headD .inBody).isPlain = true := by
    cases hmodes : b.templateModes with
    | nil => rfl
    | cons mode _ => exact h mode (by simp [hmodes])
  induction opened with
  | nil => rfl
  | cons i outer ih =>
      rw [Build.modeFor]
      split
      · split <;> grind [Mode.isPlain, Mode.isLate, Mode.isPassing]
      · exact ih

theorem InTurn.of_isLate {mode : Mode} (h : b.InTurn) (hlate : mode.isLate = true)
    (hreturn : mode.isPassing = true → b.returnMode.isLate = true) : InTurn { b with mode } :=
  ⟨h.isPlain, hreturn, fun hearly => by simp [hlate] at hearly⟩

theorem InTurn.step (hb : b.InTurn) (h : Step b b') : b'.IsReady := by
  have hlate (h : b.mode.isLate = true) {opened : List NodeId} (hearly : b.mode.isLate = false) : opened = [] := by
    simp [h] at hearly
  cases h with
  | fail => exact .inl (Nat.succ_pos _)
  | templateModes h => exact .inr ⟨fun mode hmode => (h mode hmode).elim id (hb.isPlain mode), hb.isLate, hb.opened_eq⟩
  | keepMode => exact .inr ⟨hb.isPlain, Mode.isLate_of_isPassing, hb.opened_eq⟩
  | setMode h => exact h.imp_right fun h => hb.of_isLate h.1 h.2
  | resetMode =>
      have hplain := isPlain_modeFor hb.isPlain b.opened
      exact .inr (hb.of_isLate (Mode.isLate_of_isPlain hplain) fun h => absurd h (Mode.not_isPassing_of_isPlain hplain))
  | close h => exact .inr ⟨hb.isPlain, hb.isLate, fun hearly => List.sublist_nil.mp (hb.opened_eq hearly ▸ h)⟩
  | doctype h => exact .inr ⟨hb.isPlain, nofun, fun _ => hb.opened_eq (by rw [h]; rfl)⟩
  | root => exact .inr ⟨hb.isPlain, nofun, nofun⟩
  | insert h => exact h.imp_right fun h => ⟨hb.isPlain, hb.isLate, hlate h⟩
  | reopen h => exact .inl h
  | _ => exact .inr ⟨hb.isPlain, hb.isLate, hb.opened_eq⟩

theorem IsReady.step (hb : b.IsReady) (h : Step b b') : b'.IsReady :=
  hb.elim (fun herror => .inl (Nat.lt_of_lt_of_le herror h.errors_le)) fun hb => hb.step h

/-- Nothing is kept for later at the start, and nothing is open. -/
theorem isReady_start : IsReady {} :=
  .inr ⟨nofun, nofun, fun _ => rfl⟩

/-- Where something is open, there is a root element. -/
theorem IsReady.isSettled (hb : b.IsReady) (h : b.opened ≠ []) : b.IsSettled := by
  refine ⟨hb, hb.imp_right fun hb => Decidable.byContradiction fun hearly => h (hb.opened_eq ?_)⟩
  exact Bool.eq_false_iff.mpr hearly

/-- Once there is a root element, it stays. -/
theorem IsSettled.step (hb : b.IsSettled) (h : Step b b') : b'.IsSettled := by
  refine ⟨hb.isReady.step h, ?_⟩
  obtain herror | hlate := hb.late
  · exact .inl (Nat.lt_of_lt_of_le herror h.errors_le)
  cases h with
  | fail => exact .inl (Nat.succ_pos _)
  | setMode h => exact h.imp_right And.left
  | resetMode =>
      exact hb.isReady.imp_right fun h => Mode.isLate_of_isPlain (isPlain_modeFor h.isPlain _)
  | doctype h => exact absurd hlate (by simp [h, Mode.isLate])
  | root => exact .inr rfl
  | _ => exact .inr hlate

theorem IsReady.steps (hb : b.IsReady) (h : Steps b b') : b'.IsReady := by
  induction h with
  | refl => exact hb
  | tail _ h ih => exact ih.step h

theorem IsSettled.steps (hb : b.IsSettled) (h : Steps b b') : b'.IsSettled := by
  induction h with
  | refl => exact hb
  | tail _ h ih => exact ih.step h

end Builder

end LinkSurvey.Html
