import LinkSurvey.Proofs.Html.Builder.Linked

/-!
What the rules of the tree builder are put together from is done in steps: insertion, closing, and what is done about
formatting. Some of it is done only after an error.
-/

namespace LinkSurvey.Html.Build

open Builder

variable {α β : Type} {k : Nat}

/-- A builder that goes on in the mode in which a token is to be looked at again. -/
def enter : Outcome × Builder → Builder
  | (.again mode _, b) => { b with mode }
  | (_, b) => b

/-- What is done is done in steps, when at least `k` errors have been found. -/
def InSteps (k : Nat) (last : α × Builder → Builder) (m : Build α) : Prop :=
  ∀ b : Builder, b.IsSettled → k ≤ b.errors → Steps b (last (m.run b))

abbrev Moves (k : Nat) (m : Build α) : Prop :=
  InSteps k Prod.snd m

abbrev Looks (k : Nat) (m : Build Outcome) : Prop :=
  InSteps k enter m

/-- What only asks about a builder. -/
def Reads (m : Build α) : Prop :=
  ∀ b : Builder, (m.run b).2 = b

/-! ### How parts are put together -/

section Rules

variable {last : β × Builder → Builder} {m : Build α} {f : α → Build β} {x y : Build β}

theorem InSteps.bind (hm : Moves k m) (hf : ∀ a, InSteps k last (f a)) : InSteps k last (m >>= f) := fun b hb hk =>
  have h := hm b hb hk
  h.trans (hf _ _ (hb.steps h) (Nat.le_trans hk h.errors_le))

theorem InSteps.read (hm : Reads m) (hf : ∀ a, InSteps k last (f a)) : InSteps k last (m >>= f) := by
  intro b hb hk
  rw [StateT.run_bind]
  change Steps b (last ((f (m.run b).1).run (m.run b).2))
  rw [hm b]
  exact hf _ b hb hk

theorem InSteps.get {f : Builder → Build β} (hf : ∀ b, InSteps k last (f b)) :
    InSteps k last (MonadState.get >>= f) :=
  .read (fun _ => rfl) hf

/-- What follows a look at the builder may rely on what it is. -/
theorem InSteps.getSettled {f : Builder → Build β}
    (hf : ∀ b : Builder, b.IsSettled → k ≤ b.errors → Steps b (last ((f b).run b))) :
    InSteps k last (MonadState.get >>= f) :=
  hf

/-- What follows an error may rely on it. -/
theorem InSteps.failThen {f : Unit → Build β} (hf : InSteps 1 last (f ())) : InSteps k last (fail >>= f) :=
  fun _ hb _ => .head .fail (hf _ (hb.step .fail) (Nat.succ_pos _))

theorem InSteps.ite {c : Prop} [Decidable c] (hx : InSteps k last x) (hy : InSteps k last y) :
    InSteps k last (if c then x else y) := by
  split
  · exact hx
  · exact hy

theorem InSteps.done {o : Outcome} (h : ∀ mode t, o ≠ .again mode t) : Looks k (Pure.pure o) := by
  intro b _ _
  have hlast : enter (o, b) = b := by
    cases o with
    | again mode t => exact absurd rfl (h mode t)
    | _ => rfl
  rw [StateT.run_pure]
  change Steps b (enter (o, b))
  rw [hlast]

theorem looks_done : Looks k (pure .done) :=
  .done nofun

theorem looks_closed : Looks k (pure .closed) :=
  .done nofun

theorem InSteps.pure (a : α) : Moves k (Pure.pure a) :=
  fun _ _ _ => .refl

theorem InSteps.step {f : Builder → Builder} (h : ∀ b, Step b (f b)) : Moves k (modify f) :=
  fun b _ _ => .single (h b)

theorem InSteps.fail : Moves k fail :=
  .step fun _ => .fail

/-- After an error the mode is free, so whether the mode is entered at once does not matter. -/
theorem Looks.moves {m : Build Outcome} (hm : Looks (k + 1) m) : Moves (k + 1) m := by
  intro b hb hk
  have h := hm b hb hk
  have herror := Nat.zero_lt_of_lt (Nat.le_trans hk h.errors_le)
  revert h herror
  obtain ⟨o, b'⟩ := m.run b
  intro h herror
  cases o with
  | again mode t => exact h.tail (.setMode (.inl herror))
  | _ => exact h

/-- What is done before the mode is entered. -/
theorem Looks.before {m : Build Outcome} {f : Outcome → Build Unit} (hm : Looks (k + 1) m)
    (hf : ∀ o, Moves (k + 1) (f o)) : Looks (k + 1) (do let o ← m; f o; return o) := by
  refine .bind hm.moves fun o b hb hk => ?_
  have h := hf o b hb hk
  have herror := Nat.zero_lt_of_lt (Nat.le_trans hk h.errors_le)
  cases o with
  | again mode t => exact h.tail (.setMode (.inl herror))
  | _ => exact h

end Rules

/-! ### Modes -/

theorem allows_of_isPlain {mode : Mode} (h : mode.isPlain = true) (b : Builder) : b.Allows mode :=
  .inr ⟨Mode.isLate_of_isPlain h, fun hpassing => absurd hpassing (Mode.not_isPassing_of_isPlain h)⟩

theorem moves_setMode {mode : Mode} (h : mode.isPlain = true) : Moves k (setMode mode) :=
  .step fun b => .setMode (allows_of_isPlain h b)

theorem looks_again {mode : Mode} (h : mode.isPlain = true) (t : Token) : Looks k (pure (.again mode t)) :=
  fun b _ _ => .single (.setMode (allows_of_isPlain h b))

theorem looks_unexpected : Looks k unexpected :=
  .failThen looks_done

theorem InSteps.reset {last : β × Builder → Builder} {x : Build β} (hx : InSteps k last x) :
    InSteps k last (do setMode (← resetMode); x) :=
  fun b hb hk => .head .resetMode (hx { b with mode := modeFor b b.opened } (hb.step .resetMode) hk)

theorem looks_setMode {mode : Mode} (h : mode.isPlain = true) : Looks k (do setMode mode; return .done) :=
  .bind (moves_setMode h) fun _ => looks_done

theorem looks_againReset (t : Token) : Looks k (do return .again (← resetMode) t) :=
  fun _ _ _ => .single .resetMode

/-- A mode that is come back to is the present one, in which there is a root element. -/
theorem looks_enterText (kind : RawKind) : Looks k (enterText kind) := by
  intro b hb _
  have hkeep : Step b { b with returnMode := b.mode } := .keepMode
  exact .tail (.single hkeep) (.setMode (hb.late.imp_right fun hlate => ⟨rfl, fun _ => hlate⟩))

/-! ### Insertion -/

theorem moves_spoilFrameset : Moves k spoilFrameset :=
  .step fun _ => .note ..

theorem moves_pushMarker : Moves k pushMarker :=
  .step fun _ => .note ..

theorem moves_clearToMarker : Moves k clearToMarker :=
  .step fun _ => .note ..

theorem looks_appendText (text : Text) : Looks k (appendText text) :=
  fun _ _ _ => .single (.text text)

theorem looks_appendComment : Looks k appendComment :=
  fun _ _ _ => .single .comment

theorem looks_commentAtRoot : Looks k (appendCommentTo Tree.root) :=
  fun _ _ _ => .single (.commentTo (.inl rfl))

/-- A comment after the body goes into the root element. -/
theorem looks_commentInRoot : Looks k (do appendCommentTo (← rootElement)) := by
  intro b _ _
  refine .single (.commentTo ?_)
  cases hlast : b.opened.getLast? with
  | none => exact .inl rfl
  | some i => exact .inr (List.mem_of_getLast? hlast)

theorem moves_insertElement (isOpen : Bool) (e : Element) : Moves k (insertElement isOpen e) := by
  intro b hb _
  cases isOpen with
  | true => exact .single (.insert hb.late true e)
  | false => exact .single (.insert hb.late false e)

theorem moves_insertFor (tag : Tag) : Moves k (insertFor tag) :=
  .bind (moves_insertElement true _) fun _ => .pure _

theorem moves_insertClosedFor (tag : Tag) : Moves k (insertClosedFor tag) :=
  .bind (moves_insertElement false _) fun _ => .pure _

theorem looks_insertFor (tag : Tag) : Looks k (do insertFor tag; return .done) :=
  .bind (moves_insertFor tag) fun _ => looks_done

theorem looks_insertClosedFor (tag : Tag) : Looks k (do insertClosedFor tag; return .closed) :=
  .bind (moves_insertClosedFor tag) fun _ => looks_closed

theorem moves_insertImplied (name : String) : Moves k (insertImplied name) :=
  moves_insertElement true _

theorem looks_insertRaw (tag : Tag) (kind : RawKind) : Looks k (insertRaw tag kind) :=
  .bind (moves_insertFor tag) fun _ => looks_enterText kind

theorem moves_addMissing (i : NodeId) (attributes : Attributes) : Moves (k + 1) (addMissing i attributes) :=
  fun _ _ hk => .single (.amend (Nat.zero_lt_of_lt hk) i attributes)

theorem moves_push (i : NodeId) : Moves (k + 1) (push i) :=
  fun _ _ hk => .single (.reopen (Nat.zero_lt_of_lt hk) _)

/-! ### Closing -/

theorem moves_popCurrent : Moves k popCurrent :=
  fun _ _ _ => .single (.close (List.drop_sublist 1 _))

theorem moves_removeOpen (i : NodeId) : Moves k (removeOpen i) :=
  .step fun _ => .close List.erase_sublist

theorem moves_dropWhileOpen (p : NodeId → Bool) : Moves k (dropWhileOpen p) :=
  .step fun _ => .close (List.dropWhile_sublist p)

theorem moves_closeWhile (p : Element → Bool) : Moves k (closeWhile p) :=
  .get fun _ => moves_dropWhileOpen _

theorem moves_closeImplied : Moves k closeImplied :=
  moves_closeWhile _

theorem moves_closeImpliedExcept (name : String) : Moves k (closeImpliedExcept name) :=
  moves_closeWhile _

theorem moves_closeUntilCurrent (names : List String) : Moves k (closeUntilCurrent names) :=
  .get fun _ => moves_dropWhileOpen _

theorem moves_closeThrough (p : String → Bool) : Moves k (closeThrough p) :=
  fun _ _ _ => .single (.close ((List.drop_sublist 1 _).trans (List.dropWhile_sublist _)))

/-- Everything inside an element is closed, and the element. -/
theorem moves_closeTo (p : NodeId → Bool) :
    Moves k (modify fun b : Builder => { b with opened := (b.opened.dropWhile p).drop 1 }) :=
  .step fun _ => .close ((List.drop_sublist 1 _).trans (List.dropWhile_sublist _))

theorem moves_closeNamed (name : String) : Moves k (closeNamed name) :=
  .bind (moves_closeThrough _) fun _ => .pure _

theorem moves_expectClose (name : String) : Moves k (expectClose name) :=
  .bind (moves_closeThrough _) fun _ => .ite (.pure _) .fail

theorem moves_closeParagraph : Moves k closeParagraph :=
  .bind (moves_closeImpliedExcept "p") fun _ => moves_expectClose "p"

theorem moves_closeParagraphInScope : Moves k closeParagraphInScope :=
  .read (fun _ => rfl) fun _ => .ite moves_closeParagraph (.pure _)

theorem moves_closeCell : Moves k closeCell :=
  .bind moves_closeImplied fun _ => .bind (moves_closeThrough _) fun _ =>
    .ite moves_clearToMarker (.bind .fail fun _ => moves_clearToMarker)

/-! ### Formatting elements -/

theorem moves_unlist (i : NodeId) : Moves k (unlist i) :=
  .step fun _ => .note ..

theorem moves_relist (i : NodeId) (new : Entry) : Moves k (relist i new) :=
  .step fun _ => .note ..

theorem moves_reopen (entries : List Entry) : Moves k (reopen entries) := by
  induction entries with
  | nil => exact .pure _
  | cons e rest ih =>
      cases e with
      | marker => exact ih
      | element i tag => exact .bind (moves_insertElement true _) fun _ => .bind (moves_relist i _) fun _ => ih

theorem moves_reconstruct : Moves k reconstruct :=
  .get fun _ => moves_reopen _

theorem moves_insertFormatting (tag : Tag) : Moves k (insertFormatting tag) := by
  have hinsert : Moves k (do
      let i ← insertElement true { name := tag.name, attributes := tag.attributes }
      modify fun b => { b with formatting := .element i tag :: b.formatting }) :=
    .bind (moves_insertElement true _) fun _ => .step fun _ => .note ..
  refine .get fun b => .ite ?_ hinsert
  split
  · exact .bind (moves_unlist _) fun _ => hinsert
  · exact .pure _

theorem moves_closeAny (name : String) : Moves k (closeAny name) := by
  refine .get fun b => ?_
  split
  · exact .fail
  · exact .ite (.bind (moves_closeImpliedExcept name) fun _ => .get fun _ =>
      .ite (moves_closeTo _) (.bind .fail fun _ => moves_closeTo _)) .fail

/-! ### Rearrangement -/

/-- A node that the builder knows to be an element. -/
def Knows (i : NodeId) (b : Builder) : Prop :=
  ∃ e, b.tree.element? i = some e

/-- After an error, what is done is done in steps and leads from one condition to another. -/
def Leads (before : Builder → Prop) (m : Build α) (after : α → Builder → Prop) : Prop :=
  ∀ b : Builder, b.IsSettled → 0 < b.errors → before b → Steps b (m.run b).2 ∧ after (m.run b).1 (m.run b).2

section Leads

variable {before : Builder → Prop} {after : β → Builder → Prop} {i : NodeId}

theorem Leads.bind {m : Build α} {f : α → Build β} {between : α → Builder → Prop} (hm : Leads before m between)
    (hf : ∀ a, Leads (between a) (f a) after) : Leads before (m >>= f) after := by
  intro b hb herror hbefore
  obtain ⟨h, hbetween⟩ := hm b hb herror hbefore
  obtain ⟨h', hafter⟩ := hf _ _ (hb.steps h) (Nat.lt_of_lt_of_le herror h.errors_le) hbetween
  exact ⟨h.trans h', hafter⟩

theorem Leads.get {f : Builder → Build β} (hf : ∀ b, Leads before (f b) after) :
    Leads before (MonadState.get >>= f) after :=
  fun b => hf b b

theorem Leads.pure {a : β} (h : ∀ b, before b → after a b) : Leads before (Pure.pure a) after :=
  fun b _ _ hbefore => ⟨.refl, h b hbefore⟩

/-- What is known stays so. -/
theorem Knows.steps {b b' : Builder} (h : Knows i b) (hsteps : Steps b b') : Knows i b' :=
  hsteps.becomes.toKeeps.exists_element h

theorem InSteps.leads {m : Build α} (hm : Moves 1 m) (hkept : ∀ {b b' : Builder}, before b → Steps b b' → before b') :
    Leads before m fun _ => before :=
  fun b hb herror hbefore => ⟨hm b hb herror, hkept hbefore (hm b hb herror)⟩

/-- What is known before an error is known after it. -/
theorem Leads.failThen {m : Build α} (hm : Leads (Knows i) m fun _ _ => True) {b : Builder} (hb : b.IsSettled)
    (hknows : Knows i b) (result : β) : Steps b ((do Build.fail; let _ ← m; return result : Build β).run b).2 :=
  .head .fail (hm _ (hb.step .fail) (Nat.succ_pos _) hknows).1

end Leads

theorem moved_insertAt {t : Tree} (place : Place) {i : NodeId} (h : ∃ e, t.element? i = some e) :
    Moved t (insertAt t place i) := by
  cases place with
  | lastChild p => exact .append p h
  | besideTable table outer =>
      rw [insertAt]
      split
      · exact .insertBefore table h
      · exact .append outer h

/-- Nodes may be put elsewhere after an error. -/
theorem steps_moved {b : Builder} {t : Tree} (hk : k + 1 ≤ b.errors) (h : Relation.ReflTransGen Moved b.tree t) :
    Steps b { b with tree := t } := by
  have hstep (t t' : Tree) (h : Moved t t') : Step { b with tree := t } { b with tree := t' } :=
    .move (b := { b with tree := t }) (Nat.zero_lt_of_lt hk) h
  exact h.lift (fun t => { b with tree := t }) hstep

theorem moves_create (e : Element) : Moves (k + 1) (create e) :=
  fun _ _ hk => .single (.make (Nat.zero_lt_of_lt hk) e)

theorem leads_create {before : Builder → Prop} (hkept : ∀ {b b' : Builder}, before b → Steps b b' → before b')
    (e : Element) : Leads before (create e) fun new b => before b ∧ Knows new b := by
  intro b hb herror hbefore
  have hsteps := moves_create (k := 0) e b hb herror
  exact ⟨hsteps, hkept hbefore hsteps, b.tree.exists_element_addElement e⟩

theorem leads_walkBetween (block : NodeId) (w : Walk) (between : List NodeId) :
    Leads (Knows w.last) (walkBetween block w between) fun w' => Knows w'.last := by
  induction between generalizing w with
  | nil => exact .pure fun _ h => h
  | cons node rest ih =>
      have hclose : Leads (Knows w.last) (removeOpen node) fun _ => Knows w.last :=
        (moves_removeOpen node).leads Knows.steps
      refine .get fun b => ?_
      split
      next tag _ =>
        split
        · exact .bind ((moves_unlist node).leads Knows.steps) fun _ => .bind hclose fun _ =>
            ih { w with count := w.count + 1 }
        · have hboth {new : NodeId} {b b' : Builder} (h : Knows w.last b ∧ Knows new b) (hsteps : Steps b b') :
              Knows w.last b' ∧ Knows new b' :=
            ⟨h.1.steps hsteps, h.2.steps hsteps⟩
          refine .bind (leads_create Knows.steps _) fun new => .bind (InSteps.leads ?replace hboth) fun _ =>
            .bind ((moves_relist node _).leads hboth) fun _ => .bind ?hang fun _ =>
              ih { last := new, bookmark := if w.last == block then some new else w.bookmark, count := w.count + 1 }
          case replace => exact fun _ _ hk => .single (.reopen hk _)
          case hang =>
            intro b hb herror hknows
            have hlast := (b.tree.becomes_detach w.last).toKeeps.exists_element hknows.1
            have hsteps := steps_moved (k := 0) herror (.tail (.single (.detach w.last)) (.append new hlast))
            exact ⟨hsteps, hknows.2.steps hsteps⟩
      · exact .bind hclose fun _ => ih { w with count := w.count + 1 }

theorem exists_element_of_isHtml {t : Tree} {p : String → Bool} {i : NodeId} (h : isHtml t p i = true) :
    ∃ e, t.element? i = some e := by
  rw [isHtml] at h
  split at h
  next e helement => exact ⟨e, helement⟩
  next => cases h

/-- The block is the first node to be moved, and later ones are made on the way. -/
theorem leads_rearrange (fmt : NodeId) (tag : Tag) (block : NodeId) :
    Leads (Knows block) (rearrange fmt tag block) fun _ _ => True := by
  refine .get fun b => .bind (leads_walkBetween block { last := block } _) fun w =>
    .bind (show Leads (Knows w.last) _ fun _ _ => True from ?hang) fun _ =>
    .bind (leads_create (fun _ _ => trivial) _) fun new => ?wrap
  case hang =>
    intro b _ herror hknows
    have hlast := (b.tree.becomes_detach w.last).toKeeps.exists_element hknows
    exact ⟨steps_moved (k := 0) herror (.tail (.single (.detach w.last)) (moved_insertAt _ hlast)), trivial⟩
  case wrap =>
    intro b _ herror hknows
    have hnew := (b.tree.becomes_moveChildren block new).toKeeps.exists_element hknows.2
    have hmoved : Relation.ReflTransGen Moved b.tree ((b.tree.moveChildren block new).append block new) :=
      .tail (.single (.moveChildren block new)) (.append block hnew)
    let parts := (b.opened.erase fmt).span (· != block)
    have hopened : Step b { b with opened := parts.1 ++ new :: parts.2 } := .reopen herror _
    exact ⟨.head hopened (.head (.note _ _ (placeEntry fmt w.bookmark (.element new tag) b.formatting) _ _ _ _)
      (steps_moved (k := 0) herror hmoved)), trivial⟩

theorem moves_adoptOnce (name : String) : Moves k (adoptOnce name) := by
  have hclose (k : Nat) (fmt : NodeId) : Moves k (do
      modify fun b : Builder => { b with opened := (b.opened.dropWhile (· != fmt)).drop 1 }
      unlist fmt
      return false) :=
    .bind (moves_closeTo _) fun _ => .bind (moves_unlist fmt) fun _ => .pure _
  refine .getSettled fun b hb hk => ?_
  dsimp only
  split
  next fmt tag _ =>
    split
    · exact (InSteps.failThen (.bind (moves_unlist fmt) fun _ => .pure _) : Moves k _) b hb hk
    split
    · exact (InSteps.failThen (.pure _) : Moves k _) b hb hk
    by_cases hcurrent : (b.opened.head? == some fmt) = true
    · -- The current element has no block in it.
      have hnone : ((b.opened.takeWhile (· != fmt)).filter (isSpecial b.tree)).getLast? = none := by
        cases hopened : b.opened with
        | nil => rfl
        | cons i rest => simp_all
      simp only [hcurrent, hnone, if_true]
      exact hclose k fmt b hb hk
    · rw [if_neg hcurrent]
      cases hblock : ((b.opened.takeWhile (· != fmt)).filter (isSpecial b.tree)).getLast? with
      | none => exact (InSteps.failThen (hclose 1 fmt) : Moves k _) b hb hk
      | some block =>
          have hspecial : isSpecial b.tree block = true := (List.mem_filter.1 (List.mem_of_getLast? hblock)).2
          exact (leads_rearrange fmt tag block).failThen hb (exists_element_of_isHtml hspecial) true
  · exact (InSteps.bind (moves_closeAny name) fun _ => .pure _ : Moves k _) b hb hk

theorem moves_adoptRounds (name : String) (n : Nat) : Moves k (adoptRounds name n) := by
  induction n with
  | zero => exact .pure _
  | succ n ih => exact .bind (moves_adoptOnce name) fun _ => .ite ih (.pure _)

theorem moves_adopt (name : String) : Moves k (adopt name) := by
  refine .get fun b => ?_
  split
  · exact .ite moves_popCurrent (moves_adoptRounds name 8)
  · exact moves_adoptRounds name 8

theorem moves_closeOuterLink : Moves k closeOuterLink := by
  refine .get fun b => ?_
  dsimp only
  split
  · exact .failThen (.bind (moves_adopt "a") fun _ => .bind (moves_unlist _) fun _ => moves_removeOpen _)
  · exact .pure _

end LinkSurvey.Html.Build
