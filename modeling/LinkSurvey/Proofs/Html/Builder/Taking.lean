import LinkSurvey.Proofs.Html.Builder.Rules

/-!
The rules for tables, lists of options, drawings and formulas are followed in steps. So every token that a builder takes
in comes down to steps.
-/

namespace LinkSurvey.Html.Build

open Builder

variable {k : Nat} {b : Builder}

/-! ### Tables -/

/-- What is in the wrong place in a table is put in front of it only after an error. -/
theorem looks_foster (t : Token) : Looks (k + 1) (foster t) := by
  have hfoster (fostering : Bool) : Moves (k + 1) (modify fun b : Builder => { b with fostering }) :=
    fun _ _ hk => .single (.foster (Nat.zero_lt_of_lt hk) fostering)
  exact .bind (hfoster true) fun _ => (looks_inBody t).before fun _ => hfoster false

theorem moves_fosterAll (pieces : List (Blankness × Text)) : Moves (k + 1) (fosterAll pieces) := by
  induction pieces with
  | nil => exact .pure _
  | cons piece rest ih => exact .bind (looks_foster _).moves fun _ => ih

/-- The mode that is come back to after the text is the present one, in which there is a root element. -/
theorem looks_tableChars (t : Token) : Looks k (tableChars t) := by
  refine .read (fun _ => rfl) fun _ => .ite (fun b hb _ => ?_) (.failThen (looks_foster t))
  have hkeep : Step b { b with returnMode := b.mode } := .keepMode
  exact .head hkeep (.single (.setMode (hb.late.imp_right fun hlate => ⟨rfl, fun _ => hlate⟩)))

theorem looks_inTable (t : Token) : Looks k (inTable t) := by
  have hother (t : Token) : Looks k (inTable.other t) :=
    .failThen (looks_foster t)
  cases t with
  | null => exact looks_tableChars _
  | text blankness text => exact looks_tableChars _
  | comment => exact looks_appendComment
  | start tag =>
      refine .ite ?caption <| .ite ?colgroup <| .ite ?col <| .ite ?body <| .ite ?row <| .ite ?table <|
        .ite (looks_startHeadContent tag) <| .ite ?input <| .ite ?form (hother _)
      case caption =>
        exact .bind (moves_closeUntilCurrent _) fun _ => .bind moves_pushMarker fun _ =>
          .bind (moves_insertFor tag) fun _ => looks_setMode rfl
      case colgroup =>
        exact .bind (moves_closeUntilCurrent _) fun _ => .bind (moves_insertFor tag) fun _ => looks_setMode rfl
      case col =>
        exact .bind (moves_closeUntilCurrent _) fun _ => .bind (moves_insertImplied _) fun _ => looks_again rfl _
      case body =>
        exact .bind (moves_closeUntilCurrent _) fun _ => .bind (moves_insertFor tag) fun _ => looks_setMode rfl
      case row =>
        exact .bind (moves_closeUntilCurrent _) fun _ => .bind (moves_insertImplied _) fun _ => looks_again rfl _
      case table =>
        exact .failThen (.read (fun _ => rfl) fun _ => .ite
          (.bind (moves_closeNamed _) fun _ => looks_againReset _) looks_done)
      case input =>
        exact .failThen (.ite (looks_insertClosedFor tag) (looks_foster _))
      case form =>
        exact .failThen (.read (fun _ => rfl) fun _ => .get fun _ => .ite looks_done
          (.bind (moves_insertElement false _) fun i => .bind (moves_noteForm (some i)) fun _ => looks_done))
  | stop tag =>
      exact .ite (.read (fun _ => rfl) fun _ => .ite (.bind (moves_closeNamed _) fun _ => .reset looks_done)
        (.failThen looks_done)) <| .ite looks_unexpected <| .ite looks_stopTemplate (hother _)
  | eof => exact looks_bodyEof
  | doctype d => exact hother _

/-- A builder with text, piece by piece, in the current place. -/
def withTexts (pieces : List (Blankness × Text)) (b : Builder) : Builder :=
  pieces.foldl (fun b (_, text) => { b with tree := insertTextAt b.tree (currentPlace b) text }) b

theorem exists_withTexts_eq (pieces : List (Blankness × Text)) (b : Builder) :
    ∃ tree, withTexts pieces b = { b with tree } ∧ Steps b { b with tree } := by
  induction pieces generalizing b with
  | nil => exact ⟨b.tree, rfl, .refl⟩
  | cons piece rest ih =>
      obtain ⟨tree, htree, hsteps⟩ := ih { b with tree := insertTextAt b.tree (currentPlace b) piece.2 }
      exact ⟨tree, htree, .head (.text piece.2) hsteps⟩

/-- Blanks between the parts of a table stay where they are, anything else is out of order. -/
theorem steps_placeTexts (hb : b.IsReady) (hmode : b.mode = .inTableText) (pieces : List (Blankness × Text))
    (t : Token) : Steps b (enter ((do
      if pieces.all fun (_, text) => allSpace text then modify (withTexts pieces)
      else
        fail
        fosterAll pieces
      return .again (← get).returnMode t : Build Outcome).run b)) := by
  have hfoster : Looks 0 (do
      fail
      fosterAll pieces
      return .again (← get).returnMode t) :=
    .failThen (.bind (moves_fosterAll _) fun _ => .get fun b => looks_againLate b.returnMode t)
  split
  · obtain ⟨tree, htree, hsteps⟩ := exists_withTexts_eq pieces b
    have hallows := allows_returnMode (hb.steps hsteps) (by simp [hmode, Mode.isPassing])
    change Steps _ (enter (.again (withTexts pieces b).returnMode t, withTexts pieces b))
    rw [htree]
    exact hsteps.tail (.setMode hallows)
  · exact hfoster b ⟨hb, .inr (by rw [hmode]; rfl)⟩ (Nat.zero_le _)

theorem steps_inTableText (hb : b.IsReady) (hmode : b.mode = .inTableText) (t : Token) :
    Steps b (enter ((inTableText t).run b)) := by
  have hnote : Step b { b with tableText := [] } := .note ..
  have hplace (t : Token) := steps_placeTexts (hb.step hnote) hmode b.tableText.reverse t
  cases t with
  | null => exact .single .fail
  | text blankness text => exact .single (.note ((blankness, text) :: b.tableText) _ _ _ _ _ _)
  | _ => exact .head hnote (hplace _)

theorem looks_inCaption (t : Token) : Looks k (inCaption t) := by
  have hleave (t : Token) : Looks k (inCaption.leave t) := by
    refine .read (fun _ => rfl) fun _ => .ite (.bind moves_closeImplied fun _ => .bind (moves_expectClose _) fun _ =>
      .bind moves_clearToMarker fun _ => ?_) looks_unexpected
    split
    · exact looks_setMode rfl
    · exact looks_again rfl _
  cases t with
  | start tag => exact .ite (hleave _) (looks_inBody (.start tag))
  | stop tag => exact .ite (hleave _) <| .ite looks_unexpected (looks_inBody (.stop tag))
  | text blankness text => exact looks_inBody (.text blankness text)
  | doctype d => exact looks_done
  | null => exact looks_inBody .null
  | comment => exact looks_inBody .comment
  | eof => exact looks_inBody .eof

theorem looks_inColumnGroup (t : Token) : Looks k (inColumnGroup t) := by
  have hother (t : Token) : Looks k (inColumnGroup.other t) :=
    .read (fun _ => rfl) fun _ => .ite (.bind moves_popCurrent fun _ => looks_again rfl t) looks_unexpected
  cases t with
  | text blankness text =>
      cases blankness with
      | unsplit => exact .done nofun
      | blank => exact looks_appendText text
      | solid => exact hother _
  | comment => exact looks_appendComment
  | start tag =>
      simp only [inColumnGroup]
      split
      · exact looks_startHtml tag
      · exact looks_insertClosedFor tag
      · exact looks_startHeadContent tag
      · exact hother _
  | stop tag =>
      simp only [inColumnGroup]
      split
      · exact .read (fun _ => rfl) fun _ => .ite
          (.bind moves_popCurrent fun _ => looks_setMode rfl) (.failThen looks_done)
      · exact looks_unexpected
      · exact looks_stopTemplate
      · exact hother _
  | eof => exact looks_bodyEof
  | _ => exact hother _

theorem looks_inTableBody (t : Token) : Looks k (inTableBody t) := by
  have hclose {mode : Mode} (h : mode.isPlain = true) : Looks k (do
      closeUntilCurrent bodyContext
      popCurrent
      setMode mode
      return .done) :=
    .bind (moves_closeUntilCurrent _) fun _ => .bind moves_popCurrent fun _ => looks_setMode h
  have hleave (t : Token) : Looks k (inTableBody.leave t) :=
    .read (fun _ => rfl) fun _ => .ite
      (.bind (moves_closeUntilCurrent _) fun _ => .bind moves_popCurrent fun _ => looks_again rfl t) looks_unexpected
  cases t with
  | start tag =>
      refine .ite ?row <| .ite ?cell <| .ite (hleave _) (looks_inTable (.start tag))
      case row =>
        exact .bind (moves_closeUntilCurrent _) fun _ => .bind (moves_insertFor tag) fun _ => looks_setMode rfl
      case cell =>
        exact .failThen (.bind (moves_closeUntilCurrent _) fun _ => .bind (moves_insertImplied _) fun _ =>
          looks_again rfl _)
  | stop tag =>
      exact .ite (.read (fun _ => rfl) fun _ => .ite (hclose rfl) (.failThen looks_done)) <| .ite (hleave _) <|
        .ite looks_unexpected (looks_inTable (.stop tag))
  | text blankness text => exact looks_inTable (.text blankness text)
  | doctype d => exact looks_inTable (.doctype d)
  | null => exact looks_inTable .null
  | comment => exact looks_inTable .comment
  | eof => exact looks_inTable .eof

theorem looks_inRow (t : Token) : Looks k (inRow t) := by
  have hagain (t : Token) : Looks k (do
      closeUntilCurrent rowContext
      popCurrent
      return .again .inTableBody t) :=
    .bind (moves_closeUntilCurrent _) fun _ => .bind moves_popCurrent fun _ => looks_again rfl t
  have hleave (t : Token) : Looks k (inRow.leave t) :=
    .read (fun _ => rfl) fun _ => .ite (hagain t) looks_unexpected
  cases t with
  | start tag =>
      refine .ite ?cell <| .ite (hleave _) (looks_inTable (.start tag))
      case cell =>
        exact .bind (moves_closeUntilCurrent _) fun _ => .bind (moves_insertFor tag) fun _ =>
          .bind (moves_setMode rfl) fun _ => .bind moves_pushMarker fun _ => looks_done
  | stop tag =>
      refine .ite ?row <| .ite (hleave _) <| .ite ?body <| .ite looks_unexpected (looks_inTable (.stop tag))
      case row =>
        exact .read (fun _ => rfl) fun _ => .ite
          (.bind (moves_closeUntilCurrent _) fun _ => .bind moves_popCurrent fun _ => looks_setMode rfl)
          (.failThen looks_done)
      case body =>
        exact .read (fun _ => rfl) fun _ => .ite (.read (fun _ => rfl) fun _ => .ite (hagain _) looks_done)
          looks_unexpected
  | text blankness text => exact looks_inTable (.text blankness text)
  | doctype d => exact looks_inTable (.doctype d)
  | null => exact looks_inTable .null
  | comment => exact looks_inTable .comment
  | eof => exact looks_inTable .eof

theorem looks_inCell (t : Token) : Looks k (inCell t) := by
  have hagain (t : Token) : Looks k (do closeCell; return .again .inRow t) :=
    .bind moves_closeCell fun _ => looks_again rfl t
  cases t with
  | start tag =>
      exact .ite (.read (fun _ => rfl) fun _ => .ite (hagain _) looks_unexpected) (looks_inBody (.start tag))
  | stop tag =>
      refine .ite ?cell <| .ite looks_unexpected <| .ite ?part (looks_inBody (.stop tag))
      case cell =>
        exact .read (fun _ => rfl) fun _ => .ite (.bind moves_closeImplied fun _ => .bind (moves_expectClose _) fun _ =>
          .bind moves_clearToMarker fun _ => looks_setMode rfl) (.failThen looks_done)
      case part => exact .read (fun _ => rfl) fun _ => .ite (hagain _) looks_unexpected
  | text blankness text => exact looks_inBody (.text blankness text)
  | doctype d => exact looks_done
  | null => exact looks_inBody .null
  | comment => exact looks_inBody .comment
  | eof => exact looks_inBody .eof

/-! ### Lists of options -/

theorem looks_inSelect (t : Token) : Looks k (inSelect t) := by
  have hleave {k : Nat} : Looks k inSelect.leave :=
    .read (fun _ => rfl) fun _ => .ite (.bind (moves_closeNamed _) fun _ => .reset looks_done) looks_done
  have hclose {name : String} {x : Build Outcome} (hx : Looks k x) : Looks k (do
      if ← currentNamed name then popCurrent
      x) :=
    .read (fun _ => rfl) fun _ => .ite (.bind moves_popCurrent fun _ => hx) hx
  cases t with
  | null => exact looks_unexpected
  | text blankness text => exact looks_appendText text
  | comment => exact looks_appendComment
  | start tag =>
      refine .ite (looks_startHtml tag) <| .ite (hclose (looks_insertFor tag)) <|
        .ite (hclose (hclose (looks_insertFor tag))) <| .ite (hclose (hclose (looks_insertClosedFor tag))) <|
        .ite (.failThen hleave) <| .ite ?input <| .ite (looks_startHeadContent tag) looks_unexpected
      case input =>
        exact .failThen (.read (fun _ => rfl) fun _ => .ite
          (.bind (moves_closeNamed _) fun _ => looks_againReset _) looks_done)
  | stop tag =>
      have hexpect {k : Nat} {name : String} : Looks k (do
          if ← currentNamed name then popCurrent else fail
          return .done) :=
        .read (fun _ => rfl) fun _ => .ite (.bind moves_popCurrent fun _ => looks_done) (.failThen looks_done)
      refine .ite ?group <| .ite hexpect <| .ite ?select <| .ite looks_stopTemplate looks_unexpected
      case group =>
        exact .get fun _ => .read (fun _ => rfl) fun _ => .ite (.bind moves_popCurrent fun _ => hexpect) hexpect
      case select => exact .read (fun _ => rfl) fun _ => .ite hleave (.failThen hleave)
  | eof => exact looks_bodyEof
  | doctype d => exact looks_unexpected

theorem looks_inSelectInTable (t : Token) : Looks k (inSelectInTable t) := by
  have hclose {k : Nat} (t : Token) : Looks k (do closeNamed "select"; return .again (← resetMode) t) :=
    .bind (moves_closeNamed _) fun _ => looks_againReset t
  cases t with
  | start tag => exact .ite (.failThen (hclose _)) (looks_inSelect (.start tag))
  | stop tag =>
      exact .ite (.failThen (.read (fun _ => rfl) fun _ => .ite (hclose _) looks_done)) (looks_inSelect (.stop tag))
  | text blankness text => exact looks_inSelect (.text blankness text)
  | doctype d => exact looks_inSelect (.doctype d)
  | null => exact looks_inSelect .null
  | comment => exact looks_inSelect .comment
  | eof => exact looks_inSelect .eof

/-! ### One token at a time -/

theorem looks_inMode {mode : Mode} (h : mode.isPlain = true) (t : Token) : Looks k (inMode mode t) := by
  cases mode with
  | initial | beforeHtml | text | inTableText => cases h
  | beforeHead => exact looks_beforeHead t
  | inHead => exact looks_inHead t
  | afterHead => exact looks_afterHead t
  | inBody => exact looks_inBody t
  | inTable => exact looks_inTable t
  | inCaption => exact looks_inCaption t
  | inColumnGroup => exact looks_inColumnGroup t
  | inTableBody => exact looks_inTableBody t
  | inRow => exact looks_inRow t
  | inCell => exact looks_inCell t
  | inSelect => exact looks_inSelect t
  | inSelectInTable => exact looks_inSelectInTable t
  | inTemplate => exact looks_inTemplate t
  | afterBody => exact looks_afterBody t
  | inFrameset => exact looks_inFrameset t
  | afterFrameset => exact looks_afterFrameset t
  | afterAfterBody => exact looks_afterAfterBody t
  | afterAfterFrameset => exact looks_afterAfterFrameset t

/-- The rule of the present mode. Before there is a root element, no rule needs one. -/
theorem steps_inMode (hb : b.IsReady) (t : Token) : Steps b (enter ((inMode b.mode t).run b)) := by
  by_cases hplain : b.mode.isPlain = true
  · exact looks_inMode hplain t b ⟨hb, .inr (Mode.isLate_of_isPlain hplain)⟩ (Nat.zero_le _)
  · cases hmode : b.mode with
    | initial => exact steps_initial t b
    | beforeHtml => exact steps_beforeHtml hmode t
    | text => exact steps_inText hb hmode t
    | inTableText => exact steps_inTableText hb hmode t
    | _ => simp [hmode, Mode.isPlain, Mode.isLate, Mode.isPassing] at hplain

theorem looks_inCurrentMode (t : Token) : Looks k (do inMode (← get).mode t) :=
  fun _ hb _ => steps_inMode hb.isReady t

theorem looks_breakOut (t : Token) : Looks k (breakOut t) :=
  .failThen (.bind (moves_closeWhile _) fun _ => looks_inCurrentMode t)

theorem looks_startForeign (tag : Tag) : Looks k (startForeign tag) :=
  .get fun _ => looks_enterForeign _ tag

theorem looks_stopForeign (tag : Tag) (first : Bool) (opened : List NodeId) :
    Looks k (stopForeign tag first opened) := by
  induction opened generalizing first k with
  | nil => exact looks_done
  | cons i outer ih =>
      cases outer with
      | nil => exact looks_done
      | cons j outer =>
          have hclose : Looks k (do
              modify fun b : Builder => { b with opened := (b.opened.dropWhile (· != i)).drop 1 }
              return .done) :=
            .bind (moves_closeTo _) fun _ => looks_done
          have hnext (first' : Bool) : Looks k (do
              if first then fail
              stopForeign tag first' (j :: outer)) :=
            .ite (.failThen (ih _)) (ih _)
          refine .getSettled fun b hb hk => ?_
          split
          · split
            · exact steps_inMode hb.isReady _
            · split
              · exact hclose b hb hk
              · exact hnext false b hb hk
          · exact ih false b hb hk

theorem looks_foreignContent (t : Token) : Looks k (foreignContent t) := by
  cases t with
  | null => exact .failThen (looks_appendText _)
  | text blankness text =>
      exact .ite (looks_appendText text) (.bind moves_spoilFrameset fun _ => looks_appendText text)
  | comment => exact looks_appendComment
  | start tag => exact .ite (looks_breakOut _) (looks_startForeign tag)
  | stop tag => exact .ite (looks_breakOut _) (.get fun b => looks_stopForeign tag true b.opened)
  | eof => exact looks_done
  | doctype d => exact looks_done

/-- What is drawn is drawn in something that is open. -/
theorem opened_ne_nil_of_isForeign {t : Token} (h : isForeign b t = true) : b.opened ≠ [] := by
  intro hopened
  simp [isForeign, hopened] at h

theorem steps_look (hb : b.IsReady) (t : Token) : Steps b (enter ((look t).run b)) := by
  change Steps b (enter ((if isForeign b t then foreignContent t else inMode b.mode t).run b))
  split
  next hforeign =>
    exact looks_foreignContent t b (hb.isSettled (opened_ne_nil_of_isForeign hforeign)) (Nat.zero_le _)
  · exact steps_inMode hb t

theorem steps_finish (hb : b.IsReady) (fuel : Nat) (queue : List Token) : Steps b ((finish fuel queue).run b).2 := by
  induction fuel generalizing b queue with
  | zero => exact .refl
  | succ fuel ih =>
      cases queue with
      | nil => exact .refl
      | cons t rest =>
          have hlook := steps_look hb t
          rw [finish, StateT.run_bind]
          revert hlook
          obtain ⟨o, b'⟩ := (look t).run b
          intro hlook
          have hrest (queue : List Token) : Steps b ((finish fuel queue).run (enter (o, b'))).2 :=
            hlook.trans (ih (hb.steps hlook) queue)
          cases o with
          | done =>
              have hfail := hlook.tail .fail
              change Steps b ((if isSelfClosing t then do fail; finish fuel rest else finish fuel rest).run b').2
              split
              · exact hfail.trans (ih (hb.steps hfail) rest)
              · exact hrest rest
          | closed => exact hrest rest
          | again mode t => exact hrest (t :: rest)
          | split text =>
              dsimp only [bind]
              split
              · exact hrest rest
              · exact hrest _
          | rawText kind => exact hlook
          | plainText => exact hlook

/-- Whatever comes, a builder takes it in step by step. -/
theorem steps_take (hb : b.IsReady) (t : Token) : Steps b ((take t).run b).2 := by
  have hnote : Step b { b with skipLineFeed := false } := .note ..
  have hfinish (t : Token) := steps_finish (hb.step hnote) (patience b t) [t]
  refine .head hnote ?_
  cases t with
  | doctype d => exact steps_doctype d _
  | text blankness text =>
      let left := if b.skipLineFeed && text.head? == some '\n' then text.drop 1 else text
      change Steps _ ((if left.isEmpty then (return none : Build (Option Outcome))
        else finish (patience b (.text blankness left)) [.text blankness left]).run { b with skipLineFeed := false }).2
      split
      · exact .refl
      · exact hfinish _
  | _ => exact hfinish _

end LinkSurvey.Html.Build
