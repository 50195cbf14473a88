import LinkSurvey.Proofs.Html.Builder.Moves

/-!
The rules for what stands before the body, in it and after it are followed in steps.
-/

namespace LinkSurvey.Html.Build

open Builder

variable {k : Nat} {b : Builder}

/-! ### Before the body -/

theorem steps_doctype (d : Doctype) (b : Builder) : Steps b ((doctype d).run b).2 := by
  let place : Build Unit := modify fun b => { b with
    tree := (b.tree.add .doctype).1.append Tree.root b.tree.nodes.size, quirks := isQuirky d, mode := .beforeHtml }
  have hplace (b : Builder) (hmode : b.mode = .initial) : Step b (place.run b).2 :=
    .doctype hmode _
  have hfail : Step b (fail.run b).2 := .fail
  have hrun : (doctype d).run b
      = (if b.mode = .initial then if isProper d then place else do fail; place else fail).run b := rfl
  rw [hrun]
  split
  next hmode =>
    split
    · exact .single (hplace b hmode)
    · exact .head hfail (.single (hplace _ hmode))
  · exact .single hfail

theorem looks_startHtml (tag : Tag) : Looks k (startHtml tag) :=
  .failThen (.read (fun _ => rfl) fun _ => .ite looks_done
    (.read (fun _ => rfl) fun _ => .bind (moves_addMissing _ _) fun _ => looks_done))

theorem moves_dropTemplateMode :
    Moves k (modify fun b : Builder => { b with templateModes := b.templateModes.drop 1 }) :=
  .step fun _ => .templateModes fun _ hmode => .inr (List.mem_of_mem_drop hmode)

theorem looks_stopTemplate : Looks k stopTemplate :=
  .read (fun _ => rfl) fun _ => .ite
    (.bind (moves_closeWhile _) fun _ => .bind (moves_expectClose _) fun _ => .bind moves_clearToMarker fun _ =>
      .bind moves_dropTemplateMode fun _ => .reset looks_done)
    looks_unexpected

theorem looks_startHeadContent (tag : Tag) : Looks k (startHeadContent tag) := by
  have htemplate : Moves k (modify fun b : Builder => { b with
      framesetOk := false, mode := .inTemplate, templateModes := .inTemplate :: b.templateModes }) := by
    intro b _ _
    have hmodes : Step b { b with templateModes := .inTemplate :: b.templateModes } :=
      .templateModes fun mode hmode => (List.mem_cons.mp hmode).imp (fun h => by rw [h]; rfl) id
    exact .head hmodes (.head (.setMode (allows_of_isPlain rfl _)) (.single (.note _ _ _ _ _ false _)))
  rw [startHeadContent]
  split
  case h_1 => exact looks_insertRaw tag .escapable
  case h_5 => exact looks_insertRaw tag .script
  case h_6 =>
    exact .bind (moves_insertFor tag) fun _ => .bind moves_pushMarker fun _ => .bind htemplate fun _ => looks_done
  case h_7 => exact looks_insertClosedFor tag
  all_goals exact looks_insertRaw tag .raw

theorem steps_initial (t : Token) (b : Builder) : Steps b (enter ((initial t).run b)) := by
  have hother : Steps b { b with errors := b.errors + 1, quirks := true, mode := .beforeHtml } :=
    .head .fail (.head (.setMode (.inl (Nat.succ_pos _))) (.single (.note _ true _ _ _ _ _)))
  cases t with
  | text blankness text =>
      cases blankness with
      | solid => exact hother
      | _ => exact .refl
  | comment => exact .single (.commentTo (.inl rfl))
  | _ => exact hother

/-- The root element is made where nothing is there yet. -/
theorem steps_beforeHtml (hmode : b.mode = .beforeHtml) (t : Token) : Steps b (enter ((beforeHtml t).run b)) := by
  have hother (t : Token) : Steps b (enter ((beforeHtml.other t).run b)) := .single (.root hmode [])
  have hunexpected : Steps b (enter (unexpected.run b)) := .single .fail
  cases t with
  | text blankness text =>
      cases blankness with
      | solid => exact hother _
      | _ => exact .refl
  | comment => exact .single (.commentTo (.inl rfl))
  | start tag =>
      rw [beforeHtml]
      split
      · exact .single (.root hmode tag.attributes)
      · exact hother _
  | stop tag =>
      rw [beforeHtml]
      split
      · exact hother _
      · exact hunexpected
  | _ => exact hother _

theorem looks_beforeHead (t : Token) : Looks k (beforeHead t) := by
  have hhead (i : NodeId) : Moves k (modify fun b : Builder => { b with head := some i }) :=
    .step fun _ => .note ..
  have hother (t : Token) : Looks k (beforeHead.other t) :=
    .bind (moves_insertImplied _) fun i => .bind (hhead i) fun _ => looks_again rfl t
  cases t with
  | text blankness text =>
      cases blankness with
      | solid => exact hother _
      | _ => exact looks_done
  | comment => exact looks_appendComment
  | start tag =>
      refine .ite (looks_startHtml tag) (.ite (.bind (moves_insertElement _ _) fun i => .bind ?_ fun _ => looks_done)
        (hother _))
      intro b _ _
      have hmode : Step b { b with mode := .inHead } := .setMode (allows_of_isPlain rfl b)
      exact .head hmode (.single (.note _ _ _ (some i) _ _ _))
  | stop tag => exact .ite (hother _) looks_unexpected
  | _ => exact hother _

theorem looks_inHead (t : Token) : Looks k (inHead t) := by
  have hother (t : Token) : Looks k (inHead.other t) :=
    .bind moves_popCurrent fun _ => looks_again rfl t
  cases t with
  | text blankness text =>
      cases blankness with
      | unsplit => exact .done nofun
      | blank => exact looks_appendText text
      | solid => exact hother _
  | comment => exact looks_appendComment
  | start tag =>
      exact .ite (looks_startHtml tag) (.ite looks_unexpected (.ite (looks_startHeadContent tag) (hother _)))
  | stop tag =>
      exact .ite (.bind moves_popCurrent fun _ => looks_setMode rfl)
        (.ite (hother _) (.ite looks_stopTemplate looks_unexpected))
  | _ => exact hother _

theorem looks_afterHead (t : Token) : Looks k (afterHead t) := by
  have hother (t : Token) : Looks k (afterHead.other t) :=
    .bind (moves_insertImplied _) fun _ => looks_again rfl t
  cases t with
  | text blankness text =>
      cases blankness with
      | unsplit => exact .done nofun
      | blank => exact looks_appendText text
      | solid => exact hother _
  | comment => exact looks_appendComment
  | start tag =>
      refine .ite (looks_startHtml tag) (.ite ?body (.ite ?frameset (.ite ?late (.ite looks_unexpected (hother _)))))
      case body =>
        exact .bind (moves_insertFor tag) fun _ => .bind moves_spoilFrameset fun _ => looks_setMode rfl
      case frameset => exact .bind (moves_insertFor tag) fun _ => looks_setMode rfl
      case late =>
        exact .failThen (.get fun b => .bind (moves_push _) fun _ =>
          (looks_startHeadContent tag).before fun _ => moves_removeOpen _)
  | stop tag => exact .ite looks_stopTemplate (.ite (hother _) looks_unexpected)
  | _ => exact hother _

/-! ### In the body -/

theorem moves_checkBodyEnd : Moves k checkBodyEnd :=
  .get fun _ => .ite (.pure _) .fail

theorem looks_templateEof : Looks k templateEof :=
  .read (fun _ => rfl) fun _ => .ite
    (.failThen (.bind (moves_closeNamed _) fun _ => .bind moves_clearToMarker fun _ =>
      .bind moves_dropTemplateMode fun _ => looks_againReset .eof))
    looks_done

theorem looks_bodyEof : Looks k bodyEof :=
  .get fun _ => .ite (.bind moves_checkBodyEnd fun _ => looks_done) looks_templateEof

theorem looks_insertVoid (tag : Tag) : Looks k (insertVoid tag) :=
  .bind moves_reconstruct fun _ => .bind (moves_insertClosedFor tag) fun _ =>
    .ite looks_closed (.bind moves_spoilFrameset fun _ => looks_closed)

theorem looks_startListItem (tag : Tag) : Looks k (startListItem tag) := by
  have hinsert : Looks k (do closeParagraphInScope; insertFor tag; return .done) :=
    .bind moves_closeParagraphInScope fun _ => looks_insertFor tag
  refine .bind moves_spoilFrameset fun _ => .get fun b => ?_
  dsimp only
  split
  · exact .ite (.bind (moves_closeImpliedExcept _) fun _ => .bind (moves_expectClose _) fun _ => hinsert) hinsert
  · exact hinsert

theorem looks_enterForeign (space : Space) (tag : Tag) : Looks k (enterForeign space tag) := by
  refine .bind (moves_insertElement _ _) fun _ => ?_
  cases tag.selfClosing with
  | true => exact looks_closed
  | false => exact looks_done

theorem moves_awaitText : Moves k (modify fun b : Builder => { b with skipLineFeed := true, framesetOk := false }) :=
  .step fun _ => .note ..

theorem moves_noteForm (form : Option NodeId) : Moves k (modify fun b : Builder => { b with form }) :=
  .step fun _ => .note ..

theorem moves_removeBody (body : NodeId) : Moves (k + 1) (modify fun b : Builder => { b with
    tree := b.tree.detach body, opened := b.opened.drop (b.opened.length - 1) }) := by
  intro b _ hk
  have hopened : Step b { b with opened := b.opened.drop (b.opened.length - 1) } := .close (List.drop_sublist _ _)
  exact .head hopened (steps_moved hk (.single (.detach body)))

theorem looks_startInBody (tag : Tag) : Looks k (startInBody tag) := by
  have hreopen {k : Nat} : Looks k (do reconstruct; insertFor tag; return .done) :=
    .bind moves_reconstruct fun _ => looks_insertFor tag
  have hspoil {k : Nat} : Looks k (do insertFor tag; spoilFrameset; return .done) :=
    .bind (moves_insertFor tag) fun _ => .bind moves_spoilFrameset fun _ => looks_done
  have hformatting {k : Nat} : Looks k (do insertFormatting tag; return .done) :=
    .bind (moves_insertFormatting tag) fun _ => looks_done
  refine .ite (looks_startHtml tag) <| .ite (looks_startHeadContent tag) <| .ite ?body <| .ite ?frameset <|
    .ite ?block <| .ite ?heading <| .ite ?pre <| .ite ?form <| .ite (looks_startListItem tag) <| .ite ?plaintext <|
    .ite ?button <| .ite ?a <| .ite ?formatting <| .ite ?nobr <| .ite ?object <| .ite ?table <|
    .ite (looks_insertVoid tag) <| .ite (looks_insertClosedFor tag) <| .ite ?hr <| .ite (.failThen (looks_insertVoid _)) <|
    .ite (.bind moves_awaitText fun _ => looks_insertRaw tag .escapable) <| .ite ?xmp <|
    .ite (.bind moves_spoilFrameset fun _ => looks_insertRaw tag .raw) <| .ite (looks_insertRaw tag .raw) <|
    .ite ?select <| .ite ?option <| .ite ?rb <| .ite ?rp <| .ite (looks_enterForeign .math tag) <|
    .ite (looks_enterForeign .svg tag) <| .ite looks_unexpected hreopen
  case body =>
    refine .failThen (.read (fun _ => rfl) fun body => ?_)
    cases body with
    | none => exact looks_done
    | some body =>
        exact .get fun b => .read (fun _ => rfl) fun _ => .ite looks_done
          (.bind moves_spoilFrameset fun _ => .bind (moves_addMissing body _) fun _ => looks_done)
  case frameset =>
    refine .failThen (.get fun b => .ite (.read (fun _ => rfl) fun body => ?_) looks_done)
    cases body with
    | none => exact looks_done
    | some body =>
        exact .bind (moves_removeBody body) fun _ => .bind (moves_insertFor tag) fun _ => looks_setMode rfl
  case block => exact .bind moves_closeParagraphInScope fun _ => looks_insertFor tag
  case heading =>
    exact .bind moves_closeParagraphInScope fun _ => .read (fun _ => rfl) fun _ =>
      .ite (.failThen (.bind moves_popCurrent fun _ => looks_insertFor tag)) (looks_insertFor tag)
  case pre =>
    exact .bind moves_closeParagraphInScope fun _ => .bind (moves_insertFor tag) fun _ =>
      .bind moves_awaitText fun _ => looks_done
  case form =>
    exact .read (fun _ => rfl) fun _ => .get fun _ => .ite (.failThen looks_done)
      (.bind moves_closeParagraphInScope fun _ => .bind (moves_insertElement true _) fun i =>
        .read (fun _ => rfl) fun _ => .ite looks_done (.bind (moves_noteForm (some i)) fun _ => looks_done))
  case plaintext =>
    exact .bind moves_closeParagraphInScope fun _ => .bind (moves_insertFor tag) fun _ => .done nofun
  case button =>
    have hrest {k : Nat} : Looks k (do reconstruct; insertFor tag; spoilFrameset; return .done) :=
      .bind moves_reconstruct fun _ => hspoil
    exact .read (fun _ => rfl) fun _ =>
      .ite (.failThen (.bind moves_closeImplied fun _ => .bind (moves_closeNamed _) fun _ => hrest)) hrest
  case a => exact .bind moves_closeOuterLink fun _ => .bind moves_reconstruct fun _ => hformatting
  case formatting => exact .bind moves_reconstruct fun _ => hformatting
  case nobr =>
    exact .bind moves_reconstruct fun _ => .read (fun _ => rfl) fun _ =>
      .ite (.failThen (.bind (moves_adopt _) fun _ => .bind moves_reconstruct fun _ => hformatting)) hformatting
  case object =>
    exact .bind moves_reconstruct fun _ => .bind (moves_insertFor tag) fun _ => .bind moves_pushMarker fun _ =>
      .bind moves_spoilFrameset fun _ => looks_done
  case table =>
    have hrest : Looks k (do insertFor tag; spoilFrameset; setMode .inTable; return .done) :=
      .bind (moves_insertFor tag) fun _ => .bind moves_spoilFrameset fun _ => looks_setMode rfl
    exact .get fun _ => .ite hrest (.bind moves_closeParagraphInScope fun _ => hrest)
  case hr =>
    exact .bind moves_closeParagraphInScope fun _ => .bind (moves_insertClosedFor tag) fun _ =>
      .bind moves_spoilFrameset fun _ => looks_closed
  case xmp =>
    exact .bind moves_closeParagraphInScope fun _ => .bind moves_reconstruct fun _ => .bind moves_spoilFrameset fun _ =>
      looks_insertRaw tag .raw
  case select =>
    refine .bind moves_reconstruct fun _ => .bind (moves_insertFor tag) fun _ => .bind moves_spoilFrameset fun _ =>
      .get fun b => .bind (moves_setMode ?_) fun _ => looks_done
    cases b.mode <;> rfl
  case option =>
    exact .read (fun _ => rfl) fun _ => .ite (.bind moves_popCurrent fun _ => hreopen) hreopen
  case rb =>
    have hrest : Looks k (do
        unless ← currentNamed "ruby" do fail
        insertFor tag
        return .done) :=
      .read (fun _ => rfl) fun _ => .ite (looks_insertFor tag) (.failThen (looks_insertFor tag))
    exact .read (fun _ => rfl) fun _ => .ite (.bind moves_closeImplied fun _ => hrest) hrest
  case rp =>
    have hrest : Looks k (do
        unless ← currentIs ["rtc", "ruby"].contains do fail
        insertFor tag
        return .done) :=
      .read (fun _ => rfl) fun _ => .ite (looks_insertFor tag) (.failThen (looks_insertFor tag))
    exact .read (fun _ => rfl) fun _ => .ite (.bind (moves_closeImpliedExcept _) fun _ => hrest) hrest

theorem looks_stopForm : Looks k stopForm := by
  refine .read (fun _ => rfl) fun _ => .ite ?_ (.get fun b => .bind (moves_noteForm none) fun _ => ?_)
  · have hclose {k : Nat} : Looks k (do closeNamed "form"; return .done) :=
      .bind (moves_closeNamed _) fun _ => looks_done
    exact .read (fun _ => rfl) fun _ => .ite
      (.bind moves_closeImplied fun _ => .read (fun _ => rfl) fun _ => .ite hclose (.failThen hclose))
      (.failThen looks_done)
  · dsimp only
    split
    · exact .failThen looks_done
    · exact .read (fun _ => rfl) fun _ => .ite
        (.bind moves_closeImplied fun _ => .read (fun _ => rfl) fun _ => .bind (moves_removeOpen _) fun _ =>
          .ite looks_done (.failThen looks_done))
        (.failThen looks_done)

theorem looks_stopInBody (tag : Tag) : Looks k (stopInBody tag) := by
  have hclose {k : Nat} (name : String) : Looks k (do expectClose name; return .done) :=
    .bind (moves_expectClose name) fun _ => looks_done
  refine .ite looks_stopTemplate <| .ite ?body <| .ite ?html <| .ite ?block <| .ite looks_stopForm <| .ite ?p <|
    .ite ?item <| .ite ?heading <| .ite (.bind (moves_adopt _) fun _ => looks_done) <| .ite ?object <|
    .ite (.failThen (looks_insertVoid _)) (.bind (moves_closeAny _) fun _ => looks_done)
  case body =>
    exact .read (fun _ => rfl) fun _ => .ite
      (.bind moves_checkBodyEnd fun _ => looks_setMode rfl) (.failThen looks_done)
  case html =>
    exact .read (fun _ => rfl) fun _ => .ite (.bind moves_checkBodyEnd fun _ => looks_again rfl _) looks_unexpected
  case block =>
    exact .read (fun _ => rfl) fun _ => .ite (.bind moves_closeImplied fun _ => hclose _) (.failThen looks_done)
  case p =>
    have hrest {k : Nat} : Looks k (do closeParagraph; return .done) :=
      .bind moves_closeParagraph fun _ => looks_done
    exact .read (fun _ => rfl) fun _ => .ite hrest (.failThen (.bind (moves_insertImplied _) fun _ => hrest))
  case item =>
    exact .read (fun _ => rfl) fun _ => .ite (.bind (moves_closeImpliedExcept _) fun _ => hclose _)
      (.failThen looks_done)
  case heading =>
    have hrest {k : Nat} : Looks k (do let _ ← closeThrough headingNames.contains; return .done) :=
      .bind (moves_closeThrough _) fun _ => looks_done
    exact .read (fun _ => rfl) fun _ => .ite
      (.bind moves_closeImplied fun _ => .read (fun _ => rfl) fun _ => .ite hrest (.failThen hrest))
      (.failThen looks_done)
  case object =>
    exact .read (fun _ => rfl) fun _ => .ite
      (.bind moves_closeImplied fun _ => .bind (moves_expectClose _) fun _ => .bind moves_clearToMarker fun _ =>
        looks_done)
      (.failThen looks_done)

theorem looks_inBody (t : Token) : Looks k (inBody t) := by
  cases t with
  | null => exact looks_unexpected
  | text blankness text =>
      exact .bind moves_reconstruct fun _ => .ite (looks_appendText text)
        (.bind moves_spoilFrameset fun _ => looks_appendText text)
  | comment => exact looks_appendComment
  | start tag => exact looks_startInBody tag
  | stop tag => exact looks_stopInBody tag
  | eof => exact looks_bodyEof
  | doctype d => exact looks_done

/-- After an error a token may be looked at in any mode. -/
theorem looks_againLate (mode : Mode) (t : Token) : Looks (k + 1) (pure (.again mode t)) :=
  fun _ _ hk => .single (.setMode (.inl (Nat.zero_lt_of_lt hk)))

theorem allows_returnMode (hb : b.IsReady) (hpassing : b.mode.isPassing = true) : b.Allows b.returnMode :=
  hb.imp_right fun hb => ⟨hb.isLate hpassing, fun _ => hb.isLate hpassing⟩

theorem steps_inText (hb : b.IsReady) (hmode : b.mode = .text) (t : Token) : Steps b (enter ((inText t).run b)) := by
  cases t with
  | text blankness text => exact .single (.text text)
  | eof =>
      have h : Looks 0 (inText .eof) :=
        .failThen (.bind moves_popCurrent fun _ => .get fun b => looks_againLate b.returnMode .eof)
      exact h b ⟨hb, .inr (by rw [hmode]; rfl)⟩ (Nat.zero_le _)
  | stop tag =>
      have hclose : Step b { b with opened := b.opened.drop 1 } := .close (List.drop_sublist 1 _)
      exact .head hclose (.single (.setMode (allows_returnMode (hb.step hclose) (by simp [hmode, Mode.isPassing]))))
  | _ => exact .refl

theorem looks_inTemplate (t : Token) : Looks k (inTemplate t) := by
  have hgo {mode : Mode} (h : mode.isPlain = true) (t : Token) : Looks k (inTemplate.goTo mode t) := by
    refine .bind (.step fun b => .templateModes fun m hm => ?_) fun _ => looks_again h t
    exact (List.mem_cons.mp hm).imp (fun hm => by rw [hm]; exact h) List.mem_of_mem_drop
  cases t with
  | text blankness text => exact looks_inBody (.text blankness text)
  | comment => exact looks_inBody .comment
  | start tag =>
      exact .ite (looks_startHeadContent tag) <| .ite (hgo rfl _) <| .ite (hgo rfl _) <| .ite (hgo rfl _) <|
        .ite (hgo rfl _) (hgo rfl _)
  | stop tag => exact .ite looks_stopTemplate looks_unexpected
  | eof => exact looks_templateEof
  | _ => exact looks_unexpected

/-! ### After the body -/

theorem looks_afterBody (t : Token) : Looks k (afterBody t) := by
  have hother (t : Token) : Looks k (afterBody.other t) :=
    .failThen (looks_again rfl t)
  cases t with
  | text blankness text =>
      cases blankness with
      | unsplit => exact .done nofun
      | blank => exact looks_inBody (.text .blank text)
      | solid => exact hother _
  | comment => exact looks_commentInRoot
  | start tag => exact .ite (looks_startHtml tag) (hother _)
  | stop tag => exact .ite (looks_setMode rfl) (hother _)
  | eof => exact looks_done
  | _ => exact hother _

theorem looks_inFrameset (t : Token) : Looks k (inFrameset t) := by
  cases t with
  | text blankness text =>
      cases blankness with
      | unsplit => exact .done nofun
      | blank => exact looks_appendText text
      | solid => exact looks_unexpected
  | comment => exact looks_appendComment
  | start tag =>
      simp only [inFrameset]
      split
      · exact looks_startHtml tag
      · exact looks_insertFor tag
      · exact looks_insertClosedFor tag
      · exact looks_startHeadContent tag
      · exact looks_unexpected
  | stop tag =>
      have hleave : Looks k (do
          popCurrent
          unless ← currentNamed "frameset" do setMode .afterFrameset
          return .done) :=
        .bind moves_popCurrent fun _ => .read (fun _ => rfl) fun _ => .ite looks_done (looks_setMode rfl)
      exact .ite (.get fun _ => .ite (.failThen looks_done) hleave) looks_unexpected
  | eof => exact .get fun _ => .ite looks_done (.failThen looks_done)
  | _ => exact looks_unexpected

theorem looks_afterFrameset (t : Token) : Looks k (afterFrameset t) := by
  cases t with
  | text blankness text =>
      cases blankness with
      | unsplit => exact .done nofun
      | blank => exact looks_appendText text
      | solid => exact looks_unexpected
  | comment => exact looks_appendComment
  | start tag =>
      simp only [afterFrameset]
      split
      · exact looks_startHtml tag
      · exact looks_startHeadContent tag
      · exact looks_unexpected
  | stop tag => exact .ite (looks_setMode rfl) looks_unexpected
  | eof => exact looks_done
  | _ => exact looks_unexpected

theorem looks_afterAfterBody (t : Token) : Looks k (afterAfterBody t) := by
  have hother (t : Token) : Looks k (afterAfterBody.other t) :=
    .failThen (looks_again rfl t)
  cases t with
  | text blankness text =>
      cases blankness with
      | unsplit => exact .done nofun
      | blank => exact looks_inBody (.text .blank text)
      | solid => exact hother _
  | comment => exact looks_commentAtRoot
  | start tag => exact .ite (looks_startHtml tag) (hother _)
  | eof => exact looks_done
  | _ => exact hother _

theorem looks_afterAfterFrameset (t : Token) : Looks k (afterAfterFrameset t) := by
  cases t with
  | text blankness text =>
      cases blankness with
      | unsplit => exact .done nofun
      | blank => exact looks_inBody (.text .blank text)
      | solid => exact looks_unexpected
  | comment => exact looks_commentAtRoot
  | start tag =>
      simp only [afterAfterFrameset]
      split
      · exact looks_startHtml tag
      · exact looks_startHeadContent tag
      · exact looks_unexpected
  | eof => exact looks_done
  | _ => exact looks_unexpected

end LinkSurvey.Html.Build
