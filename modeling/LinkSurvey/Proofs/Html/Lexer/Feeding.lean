import LinkSurvey.Html.Document
import LinkSurvey.Proofs.Html.Builder.Taking

/-!
What a lexer makes of markup reaches its builder token by token. So whatever the markup, its builder goes in steps.
-/

namespace LinkSurvey.Html.Lexer

variable {m m' m'' : Lexer} {kind : RawKind} {c : Char}

/-- One lexer comes from another, and its builder has gone in steps. -/
def Feeds (m m' : Lexer) : Prop :=
  m.builder.IsReady → m.builder.Steps m'.builder

theorem Feeds.of_eq (h : m'.builder = m.builder) : Feeds m m' := by
  intro _
  rw [h]

theorem Feeds.trans (h : Feeds m m') (h' : Feeds m' m'') : Feeds m m'' :=
  fun hm => (h hm).trans (h' (hm.steps (h hm)))

theorem Feeds.ite {p : Prop} [Decidable p] (h : Feeds m m') (h' : Feeds m m'') :
    Feeds m (if p then m' else m'') := by
  split
  · exact h
  · exact h'

theorem Feeds.enter (h : Feeds m m') (state : LexState) : Feeds m (m'.enter state) :=
  h

theorem feeds_foldl {f : Lexer → Char → Lexer} (hf : ∀ m c, Feeds m (f m c)) (m : Lexer) (text : Text) :
    Feeds m (text.foldl f m) := by
  induction text generalizing m with
  | nil => exact .of_eq rfl
  | cons c rest ih => exact (hf m c).trans (ih _)

/-! ### What is handed on -/

theorem feeds_fail (m : Lexer) : Feeds m m.fail :=
  fun _ => .single .fail

theorem feeds_failIf (m : Lexer) (p : Prop) [Decidable p] : Feeds m (if p then m.fail else m) :=
  .ite (feeds_fail m) (.of_eq rfl)

theorem feeds_failUnless (m : Lexer) (p : Prop) [Decidable p] : Feeds m (if p then m else m.fail) :=
  .ite (.of_eq rfl) (feeds_fail m)

theorem feeds_emit (m : Lexer) (t : Token) : Feeds m (m.emit t) :=
  fun hm => Build.steps_take hm t

theorem feeds_flush (m : Lexer) : Feeds m m.flush :=
  .ite (.of_eq rfl) (feeds_emit { m with run := [] } _)

theorem feeds_emitText (m : Lexer) (text : Text) : Feeds m (m.emitText text) :=
  (feeds_flush m).trans (feeds_emit _ _)

theorem feeds_emitNull (m : Lexer) : Feeds m m.emitNull :=
  (feeds_flush m).trans (feeds_emit _ _)

theorem feeds_emitHeld (m : Lexer) : Feeds m m.emitHeld :=
  feeds_emitText m _

theorem feeds_finishAttribute (m : Lexer) : Feeds m m.finishAttribute :=
  .ite (.of_eq rfl) (.ite (feeds_fail m) (.of_eq rfl))

theorem feeds_startAttribute (m : Lexer) (c : Char) : Feeds m (m.startAttribute c) :=
  feeds_finishAttribute m

theorem feeds_stopTag (m : Lexer) (t : Token) : Feeds m (
    let m := if m.attributes.isEmpty then m else m.fail
    let m := if m.isSelfClosing then m.fail else m
    m.emit t) :=
  (feeds_failUnless m _).trans <| (feeds_failIf _ _).trans (feeds_emit _ t)

/-- What a start tag means for the text after it does not matter to the builder. -/
theorem feeds_startTag (m : Lexer) (t : Token) : Feeds m (
    let (outcome, builder) := (Build.take t).run m.builder
    let m := { m with lastStart := some m.tagName, builder }
    match outcome with
    | some (.rawText kind) => m.enter (.raw kind)
    | some .plainText => m.enter .plain
    | _ => m) := by
  intro hm
  have htake := Build.steps_take hm t
  revert htake
  obtain ⟨outcome, builder⟩ := (Build.take t).run m.builder
  intro htake
  dsimp only
  split
  · exact htake
  · exact htake
  · exact htake

theorem feeds_emitTag (m : Lexer) : Feeds m m.emitTag :=
  (feeds_finishAttribute m).trans <|
    .ite (feeds_stopTag { m.finishAttribute with state := .data } _)
      (feeds_startTag { m.finishAttribute with state := .data }
        (.start ⟨String.ofList m.finishAttribute.tagName.reverse, m.finishAttribute.attributes,
          m.finishAttribute.isSelfClosing⟩))

theorem feeds_emitComment (m : Lexer) : Feeds m m.emitComment :=
  feeds_emit m _

theorem feeds_emitDoctype (m : Lexer) : Feeds m m.emitDoctype :=
  feeds_emit m _

theorem feeds_pushText (alone : Bool) (m : Lexer) (c : Char) : Feeds m (m.pushText alone c) :=
  .ite (feeds_emitText m _) (.of_eq rfl)

/-! ### Text -/

theorem feeds_rawStep (kind : RawKind) (alone : Bool) (m : Lexer) (c : Char) : Feeds m (rawStep kind alone m c) :=
  .ite ((feeds_fail m).trans (feeds_emitText _ _)) <|
    .ite (.ite (feeds_emitText m _) (feeds_flush m)) <| .ite (feeds_flush m) <|
    .ite (feeds_emitText m _) (feeds_pushText alone m c)

theorem feeds_dashStep (kind : RawKind) (double : Bool) (m : Lexer) (c : Char) : Feeds m (dashStep kind double m c) :=
  .ite (feeds_emitText m _) <| .ite (.ite (feeds_emitText m _) (.of_eq rfl)) <| .ite (feeds_emitText m _) <|
    .ite ((feeds_fail m).trans (feeds_emitText _ _)) (feeds_emitText m _)

theorem feeds_dataStep (alone : Bool) (m : Lexer) (c : Char) : Feeds m (dataStep alone m c) :=
  .ite ((feeds_fail m).trans (feeds_emitNull _)) <| .ite (feeds_flush m) <|
    .ite (feeds_flush m) (feeds_pushText alone m c)

theorem feeds_scriptNameStep (whenScript otherwise stay : RawKind) (m : Lexer) (c : Char) :
    Feeds m (scriptNameStep whenScript otherwise stay m c) :=
  .ite (feeds_emitText m _) <| .ite (feeds_emitText m _) (feeds_rawStep stay true (m.enter (.raw stay)) c)

theorem feeds_rawLessStep (kind : RawKind) (m : Lexer) (c : Char) : Feeds m (rawLessStep kind m c) :=
  .ite (.ite (feeds_emitText { m with held := [] } _) (feeds_rawStep kind true (m.enter (.raw kind)) c)) <|
    .ite (.of_eq rfl) <| .ite ((feeds_emitText m _).trans (feeds_emitText _ _)) <|
    .ite ((feeds_emitText m _).trans (feeds_emitText _ _)) <|
    ((feeds_emitText m _).enter _).trans (feeds_rawStep kind true _ c)

theorem feeds_rawEndOpenStep (kind : RawKind) (m : Lexer) (c : Char) : Feeds m (rawEndOpenStep kind m c) :=
  .ite (.of_eq rfl) <| (feeds_emitText m ['<']).trans <|
    ((feeds_emitText _ ['/']).enter _).trans (feeds_rawStep kind true _ c)

theorem feeds_rawEndNameStep (kind : RawKind) (m : Lexer) (c : Char) : Feeds m (rawEndNameStep kind m c) := by
  refine .ite (.of_eq rfl) <| .ite (.of_eq rfl) <| .ite (feeds_emitTag { m with held := [] }) <| .ite (.of_eq rfl) ?_
  exact (feeds_emitText { m with tagName := [], attributes := [], isSelfClosing := false } ['<']).trans <|
    (feeds_emitText _ ['/']).trans <| ((feeds_emitHeld _).enter _).trans (feeds_rawStep kind true _ c)

/-! ### Tags -/

theorem feeds_tagOpenStep (m : Lexer) (c : Char) : Feeds m (tagOpenStep m c) :=
  .ite (.of_eq rfl) <| .ite (.of_eq rfl) <| .ite (feeds_fail m) <| .ite (.of_eq rfl) <|
    (feeds_fail m).trans <| ((feeds_emitText _ ['<']).enter _).trans (feeds_dataStep true _ c)

theorem feeds_tagNameStep (m : Lexer) (c : Char) : Feeds m (tagNameStep m c) :=
  .ite (.of_eq rfl) <| .ite (.of_eq rfl) <| .ite (feeds_emitTag m) <| .ite (feeds_fail m) (.of_eq rfl)

theorem feeds_attributeStep (allowEquals : Bool) (m : Lexer) (c : Char) : Feeds m (attributeStep allowEquals m c) :=
  .ite (.of_eq rfl) <| .ite (.of_eq rfl) <| .ite (feeds_emitTag m) <| .ite (.of_eq rfl) <|
    .ite ((feeds_fail m).trans (feeds_startAttribute _ _)) ((feeds_failIf m _).trans (feeds_startAttribute _ _))

theorem feeds_nameStep (m : Lexer) (c : Char) : Feeds m (nameStep m c) :=
  .ite (.of_eq rfl) <| .ite (.of_eq rfl) <| .ite (.of_eq rfl) <| .ite (feeds_emitTag m) <| .ite (feeds_fail m)
    (.ite (feeds_fail m) (.of_eq rfl))

theorem feeds_valueStep (quote : Option Char) (alone : Bool) (m : Lexer) (c : Char) :
    Feeds m (valueStep quote alone m c) :=
  .ite (.of_eq rfl) <| .ite (.of_eq rfl) <| .ite (feeds_fail m) <| .ite (.of_eq rfl) <| .ite (feeds_emitTag m) <|
    .ite (feeds_fail m) (.of_eq rfl)

/-! ### Comments and declarations -/

theorem feeds_commentStep (m : Lexer) (c : Char) : Feeds m (commentStep m c) :=
  .ite (.of_eq rfl) <| .ite (.of_eq rfl) <| .ite (feeds_fail m) (.of_eq rfl)

theorem feeds_commentEndDashStep (m : Lexer) (c : Char) : Feeds m (commentEndDashStep m c) :=
  .ite (.of_eq rfl) <| .ite (feeds_fail m) (.of_eq rfl)

theorem feeds_commentEndStep (m : Lexer) (c : Char) : Feeds m (commentEndStep m c) :=
  .ite (feeds_emitComment m) <| .ite (.of_eq rfl) <| .ite (.of_eq rfl) (feeds_commentStep (m.enter .comment) c)

theorem feeds_bogusCommentStep (m : Lexer) (c : Char) : Feeds m (bogusCommentStep m c) :=
  .ite (feeds_emitComment m) <| .ite (feeds_fail m) (.of_eq rfl)

theorem feeds_beforeDoctypeNameStep (m : Lexer) (c : Char) : Feeds m (beforeDoctypeNameStep m c) :=
  .ite (.of_eq rfl) <|
    .ite ((feeds_fail m).trans (feeds_emitDoctype { m.fail with declared := { forceQuirks := true } })) <|
    .ite (feeds_fail m) (.of_eq rfl)

theorem feeds_bogusDoctypeStep (m : Lexer) (c : Char) : Feeds m (bogusDoctypeStep m c) :=
  .ite (feeds_emitDoctype m) <| .ite (feeds_fail m) (.of_eq rfl)

theorem feeds_quoteStep (isPublic : Bool) (m : Lexer) (c : Char) : Feeds m (quoteStep isPublic m c) :=
  .ite (.of_eq rfl) (feeds_fail m)

theorem feeds_afterDoctypeNameStep (seen : Text) (m : Lexer) (c : Char) : Feeds m (afterDoctypeNameStep seen m c) :=
  .ite (.of_eq rfl) <| .ite (.of_eq rfl) <| .ite (.of_eq rfl) <|
    .ite (.ite (.of_eq rfl) <| .ite (feeds_emitDoctype m) (feeds_fail m)) <|
    (feeds_fail m).trans (feeds_bogusDoctypeStep (m.fail.forceQuirks.enter .bogusDoctype) c)

theorem feeds_declarationStep (seen : Text) (m : Lexer) (c : Char) : Feeds m (declarationStep seen m c) :=
  .ite (.of_eq rfl) <| .ite (.of_eq rfl) <| .ite (.of_eq rfl) <| .ite (.of_eq rfl) <|
    ((feeds_fail m).enter _).trans (feeds_bogusCommentStep _ c)

theorem feeds_sectionStep (m : Lexer) (c : Char) : Feeds m (sectionStep m c) :=
  .ite (.of_eq rfl) <| .ite ((feeds_emitHeld m).trans (feeds_emitNull _)) (.of_eq rfl)

/-! ### Characters -/

theorem feeds_plainStep (alone : Bool) (m : Lexer) (c : Char) : Feeds m (plainStep alone m c) := by
  rw [plainStep]
  cases m.state with
  | data => exact feeds_dataStep alone m c
  | raw kind => exact feeds_rawStep kind alone m c
  | plain => exact .ite ((feeds_fail m).trans (feeds_emitText _ _)) (feeds_pushText alone m c)
  | tagOpen => exact feeds_tagOpenStep m c
  | endTagOpen =>
      exact .ite (feeds_fail m) <| .ite (.of_eq rfl) <|
        ((feeds_fail m).enter _).trans (feeds_bogusCommentStep _ c)
  | tagName => exact feeds_tagNameStep m c
  | rawLess kind => exact feeds_rawLessStep kind m c
  | rawEndOpen kind => exact feeds_rawEndOpenStep kind m c
  | rawEndName kind => exact feeds_rawEndNameStep kind m c
  | escapeStart => exact .ite (feeds_emitText m _) (feeds_rawStep .script true (m.enter (.raw .script)) c)
  | escapeStartDash => exact .ite (feeds_emitText m _) (feeds_rawStep .script true (m.enter (.raw .script)) c)
  | doubleStart => exact feeds_scriptNameStep _ _ _ m c
  | doubleEnd => exact feeds_scriptNameStep _ _ _ m c
  | escapedDash kind => exact feeds_dashStep kind false m c
  | escapedDashDash kind => exact feeds_dashStep kind true m c
  | beforeName => exact feeds_attributeStep false m c
  | name => exact feeds_nameStep m c
  | afterName => exact feeds_attributeStep true m c
  | beforeValue =>
      exact .ite (.of_eq rfl) <| .ite (.of_eq rfl) <| .ite ((feeds_fail m).trans (feeds_emitTag _))
        (feeds_valueStep none false (m.enter (.value none)) c)
  | value quote => exact feeds_valueStep quote alone m c
  | afterValue =>
      exact .ite (.of_eq rfl) <| .ite (.of_eq rfl) <| .ite (feeds_emitTag m) <|
        ((feeds_fail m).enter _).trans (feeds_attributeStep false _ c)
  | selfClosing =>
      exact .ite (feeds_emitTag { m with state := .selfClosing, isSelfClosing := true }) <|
        ((feeds_fail m).enter _).trans (feeds_attributeStep false _ c)
  | declaration seen => exact feeds_declarationStep seen m c
  | bogusComment => exact feeds_bogusCommentStep m c
  | commentStart | commentStartDash | commentEndBang =>
      exact .ite (.of_eq rfl) <| .ite ((feeds_fail m).trans (feeds_emitComment _)) <| .ite (feeds_fail m) (.of_eq rfl)
  | comment => exact feeds_commentStep m c
  | commentLess => exact .ite (.of_eq rfl) <| .ite (.of_eq rfl) (feeds_commentStep (m.enter .comment) c)
  | commentLessBang => exact .ite (.of_eq rfl) (feeds_commentStep (m.enter .comment) c)
  | commentLessBangDash => exact .ite (.of_eq rfl) (feeds_commentEndDashStep m c)
  | commentLessBangDashDash =>
      exact ((feeds_failUnless m _).enter _).trans (feeds_commentEndStep _ c)
  | commentEndDash => exact feeds_commentEndDashStep m c
  | commentEnd => exact feeds_commentEndStep m c
  | doctype =>
      exact .ite (.of_eq rfl) <|
        ((feeds_failUnless m _).enter _).trans (feeds_beforeDoctypeNameStep _ c)
  | beforeDoctypeName => exact feeds_beforeDoctypeNameStep m c
  | doctypeName =>
      exact .ite (.of_eq rfl) <| .ite (feeds_emitDoctype m) <| .ite (feeds_fail m) (.of_eq rfl)
  | afterDoctypeName seen => exact feeds_afterDoctypeNameStep seen m c
  | afterKeyword isPublic =>
      exact .ite (.of_eq rfl) <| .ite ((feeds_fail m).trans (feeds_emitDoctype m.fail.forceQuirks)) <|
        .ite ((feeds_fail m).trans (feeds_quoteStep isPublic _ c)) (feeds_quoteStep isPublic m c)
  | beforeIdentifier isPublic =>
      exact .ite (.of_eq rfl) <| .ite ((feeds_fail m).trans (feeds_emitDoctype m.fail.forceQuirks))
        (feeds_quoteStep isPublic m c)
  | identifier isPublic quote =>
      exact .ite (.of_eq rfl) <| .ite ((feeds_fail m).trans (feeds_emitDoctype m.fail.forceQuirks)) <|
        .ite (feeds_fail m) (.of_eq rfl)
  | afterIdentifier isPublic =>
      cases isPublic with
      | true =>
          exact .ite (.of_eq rfl) <| .ite (feeds_emitDoctype m) <|
            .ite ((feeds_fail m).trans (feeds_quoteStep false _ c)) (feeds_quoteStep false m c)
      | false => exact .ite (.of_eq rfl) <| .ite (feeds_emitDoctype m) (feeds_fail m)
  | betweenIdentifiers => exact .ite (.of_eq rfl) <| .ite (feeds_emitDoctype m) (feeds_quoteStep false m c)
  | bogusDoctype => exact feeds_bogusDoctypeStep m c
  | «section» => exact feeds_sectionStep m c
  | sectionBracket =>
      exact .ite (.of_eq rfl) (feeds_sectionStep { m with held := ']' :: m.held, state := .section } c)
  | sectionEnd =>
      exact .ite (.of_eq rfl) <| .ite (feeds_emitHeld m)
        (feeds_sectionStep { m with held := ']' :: ']' :: m.held, state := .section } c)

/-! ### Line ends and references -/

theorem feeds_read (m : Lexer) (c : Char) : Feeds m (m.read c) := by
  have htake (alone : Bool) (m : Lexer) : Feeds m (
      if c = '\r' then plainStep alone { m with before := .carriageReturn } '\n' else plainStep alone m c) :=
    .ite (feeds_plainStep alone { m with before := .carriageReturn } '\n') (feeds_plainStep alone m c)
  rw [read]
  cases m.before with
  | nothing => exact .ite (.of_eq rfl) (htake false m)
  | carriageReturn => exact .ite (.of_eq rfl) (htake true { m with before := .nothing })
  | lookahead => exact htake true { m with before := .nothing }
  | reference => exact .ite (.of_eq rfl) (htake true { m with before := .nothing })

theorem feeds_putMeaning (m : Lexer) (text : Text) : Feeds m (m.putMeaning text) := by
  rw [putMeaning]
  split
  · exact feeds_foldl (f := pushValue) (fun _ _ => .of_eq rfl) m text
  · exact feeds_foldl (fun m c => feeds_emitText m [c]) m text

theorem feeds_giveUp (m : Lexer) (seen : Text) : Feeds m (m.giveUp seen) :=
  (feeds_putMeaning { m with reference := none } ['&']).trans <| (feeds_foldl feeds_read _ seen).trans (feeds_flush _)

theorem feeds_finishNamed (m : Lexer) (seen : Text) (best : Text × Nat) : Feeds m (m.finishNamed seen best) :=
  .ite (feeds_giveUp m _) <| (feeds_fail m).trans <|
    (feeds_putMeaning { m.fail with reference := none } best.1).trans <|
    (feeds_foldl feeds_read _ _).trans (feeds_flush _)

theorem feeds_finishNumber (m : Lexer) (value : Nat) : Feeds m (m.finishNumber value) :=
  (feeds_failUnless m _).trans
    (feeds_putMeaning { (if (numbered value).2 then m else m.fail) with reference := none } _)

theorem feeds_giveUpNumber (m : Lexer) (marker : Option Char) : Feeds m (m.giveUpNumber marker) :=
  (feeds_fail m).trans (feeds_giveUp _ _)

theorem feeds_numberStep (m : Lexer) (marker : Option Char) (value : Nat) (seen : Bool) (c : Char) :
    Feeds m (m.numberStep marker value seen c) := by
  rw [numberStep]
  split
  · exact .of_eq rfl
  · exact .ite ((feeds_giveUpNumber m marker).trans (feeds_read _ c)) <| .ite (feeds_finishNumber m value) <|
      (feeds_fail m).trans <| (feeds_finishNumber _ value).trans (feeds_read _ c)

theorem feeds_lineEnd (m : Lexer) (c : Char) :
    Feeds m (if (c == '\r') = true then { m with before := .carriageReturn } else m) :=
  .ite (.of_eq rfl) (.of_eq rfl)

theorem feeds_namedStep (m : Lexer) (seen : Text) (best : Option (Text × Nat)) (c : Char) :
    Feeds m (m.namedStep seen best c) := by
  refine (feeds_lineEnd m c).trans ?_
  rw [namedStep.eq_def]
  dsimp only
  generalize (if (c == '\r') = true then { m with before := .carriageReturn } else m) = m
  refine .ite (.ite ?complete (.of_eq rfl)) ?other
  case complete =>
    split
    · exact feeds_putMeaning { m with reference := none, before := .reference } _
    · exact feeds_giveUp m _
  case other =>
    split
    · exact feeds_finishNamed m _ _
    · exact .ite (.of_eq rfl) ((feeds_failIf m _).trans (feeds_giveUp _ _))

theorem feeds_unknownStep (m : Lexer) (seen : Text) (c : Char) : Feeds m (m.unknownStep seen c) := by
  refine (feeds_lineEnd m c).trans ?_
  rw [unknownStep]
  generalize (if (c == '\r') = true then { m with before := .carriageReturn } else m) = m
  exact .ite (.of_eq rfl) ((feeds_failIf m _).trans (feeds_giveUp _ _))

theorem feeds_step (m : Lexer) (c : Char) : Feeds m (m.step c) := by
  rw [step]
  split
  · exact feeds_read m c
  · exact .ite ((feeds_giveUp m []).trans (feeds_read _ c)) <| .ite (.of_eq rfl) (feeds_namedStep m [] none c)
  · exact .ite (.of_eq rfl) (feeds_numberStep m none 0 false c)
  · exact feeds_numberStep m _ _ _ c
  · exact feeds_namedStep m _ _ c
  · exact feeds_unknownStep m _ c

theorem feeds_endReference (m : Lexer) : Feeds m m.endReference := by
  rw [endReference]
  split
  · exact .of_eq rfl
  · exact feeds_giveUp m []
  · exact (feeds_fail m).trans (feeds_giveUp _ _)
  · exact .ite ((feeds_fail m).trans (feeds_finishNumber _ _)) (feeds_giveUpNumber m _)
  · split
    · exact feeds_finishNamed m _ _
    · exact feeds_giveUp m _
  · exact feeds_giveUp m _

theorem feeds_endState (m : Lexer) : Feeds m m.endState := by
  rw [endState]
  cases m.state with
  | data | plain | escapeStartDash => exact .of_eq rfl
  | raw kind => exact feeds_failIf m _
  | tagOpen => exact (feeds_fail m).trans (feeds_emitText _ _)
  | endTagOpen => exact (feeds_fail m).trans <| (feeds_emitText _ _).trans (feeds_emitText _ _)
  | rawLess kind => exact .ite (feeds_fail m) ((feeds_emitText m _).trans (feeds_failIf _ _))
  | rawEndOpen kind =>
      exact (feeds_emitText m _).trans <| (feeds_emitText _ _).trans (feeds_failIf _ _)
  | rawEndName kind =>
      exact (feeds_emitText m _).trans <| (feeds_emitText _ _).trans <| (feeds_emitHeld _).trans (feeds_failIf _ _)
  | commentStart | commentStartDash | comment | commentLess | commentLessBang | commentLessBangDash
  | commentLessBangDashDash | commentEndDash | commentEnd | commentEndBang | declaration =>
      exact (feeds_fail m).trans (feeds_emitComment _)
  | bogusComment => exact feeds_emitComment m
  | doctype | beforeDoctypeName =>
      exact (feeds_fail m).trans (feeds_emitDoctype { m.fail with declared := { forceQuirks := true } })
  | doctypeName | afterDoctypeName | afterKeyword | beforeIdentifier | identifier | afterIdentifier
  | betweenIdentifiers => exact (feeds_fail m).trans (feeds_emitDoctype m.fail.forceQuirks)
  | bogusDoctype => exact feeds_emitDoctype m
  | «section» => exact (feeds_emitHeld m).trans (feeds_fail _)
  | sectionBracket =>
      exact (feeds_emitHeld { m with state := .sectionBracket, held := ']' :: m.held }).trans (feeds_fail _)
  | sectionEnd =>
      exact (feeds_emitHeld { m with state := .sectionEnd, held := ']' :: ']' :: m.held }).trans (feeds_fail _)
  | _ => exact feeds_fail m

end LinkSurvey.Html.Lexer

namespace LinkSurvey.Html

/-- The tree of a document is built step by step. -/
theorem Document.exists_steps (markup : Text) :
    ∃ b : Builder, Builder.Steps {} b ∧ Document.parse markup = ⟨b.tree, b.errors⟩ := by
  let m := (withoutMark markup).foldl Lexer.step {}
  have hread : Lexer.Feeds {} m := Lexer.feeds_foldl Lexer.feeds_step _ _
  have hend : Lexer.Feeds m ((m.endReference.flush.endState).flush.emit .eof) :=
    (Lexer.feeds_endReference m).trans <| (Lexer.feeds_flush _).trans <| (Lexer.feeds_endState _).trans <|
      (Lexer.feeds_flush _).trans (Lexer.feeds_emit _ _)
  exact ⟨m.finish, hread.trans hend Builder.isReady_start, rfl⟩

end LinkSurvey.Html
