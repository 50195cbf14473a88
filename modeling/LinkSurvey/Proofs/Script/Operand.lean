import LinkSurvey.Script.Parser

/-!
The parser on plain operands. Most rules of the grammar ask for a word or a mark that opens their construct. A name or
a string opens none, so each rule hands it on to the next tighter one, down to the operand itself; and a mark that ends
an expression ends it for all of them on the way back. A call of a named function with a string is such an operand.

A run is followed by its steps: each lemma says in which state a parser ends, and `bind_of_ok` puts them one after
another. The states on the way differ by the tokens that were taken, so they are all `State.past` of the first one.
-/

namespace LinkSurvey.Script

/-! ### Tokens -/

namespace Token

/-- Tokens without a meaning in the language: names and values. -/
structure IsPlain (t : Token) : Prop where
  isMark : ∀ spelling, t.isMark spelling = false
  isWord : ∀ text, isKeyword text = true → t.isWord text = false
  isPrivate : (t.kind == .privateName) = false
  isDone : t.isDone = false

/-- Marks that are spelled in one of these ways. -/
structure IsOneOf (t : Token) (spellings : List String) : Prop where
  kind : t.kind = .mark
  text : t.text ∈ spellings
  escaped : t.escaped = false

/-- Marks that no expression goes on with. -/
def closing : List String := [")", ";"]

variable {t : Token} {spellings : List String}

theorem isPlain_string (hkind : t.kind = .string) : t.IsPlain where
  isMark _ := by rw [Token.isMark, hkind]; rfl
  isWord _ _ := by rw [Token.isWord, hkind]; rfl
  isPrivate := by rw [hkind]; rfl
  isDone := by rw [Token.isDone, hkind]; rfl

/-- A plain name is none of the words that are looked for. -/
theorem text_ne_of_isPlainName (hname : t.isPlainName = true) {text : String} (hkeyword : isKeyword text = true) :
    t.text ≠ text := by
  rintro rfl
  obtain ⟨-, htext⟩ := Bool.and_eq_true_iff.1 hname
  rw [hkeyword] at htext
  exact absurd htext (by decide)

theorem isPlain_name (hname : t.isPlainName = true) : t.IsPlain := by
  have hkind : t.kind = .word := eq_of_beq (Bool.and_eq_true_iff.1 hname).1
  exact {
    isMark := fun _ => by rw [Token.isMark, hkind]; rfl
    isWord := fun text hkeyword => by
      rw [Token.isWord, hkind, beq_self_eq_true, Bool.true_and, beq_eq_false_iff_ne]
      exact text_ne_of_isPlainName hname hkeyword
    isPrivate := by rw [hkind]; rfl
    isDone := by rw [Token.isDone, hkind]; rfl }

theorem isBindingName_of_isPlainName (hname : t.isPlainName = true) : t.isBindingName = true := by
  obtain ⟨hkind, htext⟩ := Bool.and_eq_true_iff.1 hname
  simp only [isKeyword, Bool.not_or, Bool.and_eq_true] at htext
  rw [Token.isBindingName, Token.isName, hkind, htext.1.1]
  rfl

theorem IsPlain.isUpdateOperator (h : t.IsPlain) : t.isUpdateOperator = false := by
  rw [Token.isUpdateOperator, h.isMark, h.isMark, Bool.or_self]

theorem IsPlain.isPrefixOperator (h : t.IsPlain) : t.isPrefixOperator = false := by
  simp only [Token.isPrefixOperator, h.isMark, h.isWord "typeof" rfl, h.isWord "void" rfl, h.isWord "delete" rfl,
    Bool.or_self]

namespace IsOneOf

theorem mono (h : t.IsOneOf spellings) {wider : List String} (hwider : spellings ⊆ wider) : t.IsOneOf wider :=
  ⟨h.kind, hwider h.text, h.escaped⟩

theorem isMark_self {spelling : String} (h : t.IsOneOf [spelling]) : t.isMark spelling = true := by
  rw [Token.isMark, h.kind, List.mem_singleton.1 h.text, beq_self_eq_true, beq_self_eq_true, Bool.and_self]

theorem isMark_other (h : t.IsOneOf spellings) {spelling : String} (hother : spelling ∉ spellings) :
    t.isMark spelling = false := by
  rw [Token.isMark, h.kind, beq_self_eq_true, Bool.true_and, beq_eq_false_iff_ne]
  rintro rfl
  exact hother h.text

theorem isTemplate (h : t.IsOneOf spellings) : t.isTemplate = false := by
  rw [Token.isTemplate, h.kind]

theorem isUpdateOperator (h : t.IsOneOf closing) : t.isUpdateOperator = false := by
  rw [Token.isUpdateOperator, h.isMark_other (by decide), h.isMark_other (by decide), Bool.or_self]

theorem precedence? (h : t.IsOneOf closing) : t.precedence? = none := by
  have htext : ∀ text ∈ closing, Token.precedence? ⟨.mark, text, .cooked "", false, false, true⟩ = none := by decide
  rw [Token.precedence?, h.kind]
  exact htext t.text h.text

theorem isAssignment (h : t.IsOneOf closing) : t.isAssignment = false := by
  have htext : ∀ text ∈ closing, assignmentMarks.contains text = false := by decide
  rw [Token.isAssignment, htext t.text h.text, Bool.and_false]

end IsOneOf

end Token

namespace Parser

/-! ### Steps of a run -/

variable {α β : Type} {s s' : State}

theorem bind_of_ok {p : Parse α} {f : α → Parse β} {a : α} (h : p s = .ok a s') : (p >>= f) s = f a s' := by
  show EStateM.bind p f s = _
  rw [EStateM.bind, h]

/-- A test that fails leads on to the other branch. -/
theorem bind_of_false {p : Parse Bool} {f g : Parse β} (h : p s = .ok false s') :
    (p >>= fun holds => if holds = true then f else g) s = g s' :=
  bind_of_ok h

theorem bind_of_true {p : Parse Bool} {f g : Parse β} (h : p s = .ok true s') :
    (p >>= fun holds => if holds = true then f else g) s = f s' :=
  bind_of_ok h

theorem map_of_ok {p : Parse α} {f : α → β} {a : α} (h : p s = .ok a s') : (f <$> p) s = .ok (f a) s' := by
  show EStateM.map f p s = _
  rw [EStateM.map, h]

theorem token_run (s : State) : token s = .ok s.token s := rfl

theorem context_run (s : State) : context s = .ok s.context s := rfl

/-- The state after the token at hand, if it is not written with escapes. -/
def State.past (s : State) : State :=
  let l := Lexer.next s.dialect false s.rest
  { s with
    token := l.token
    rest := l.rest
    faults := l.faults ++ s.faults
    comment := s.comment <|> l.comment
    taken := s.taken + 1 }

theorem takeName_run (s : State) : takeName s = .ok () s.past := rfl

theorem take_run (h : s.token.escaped = false) : take s = .ok () s.past := by
  have hspelling : checkSpelling s = .ok () s := by
    rw [checkSpelling, bind_of_ok (token_run s), h]
    rfl
  rw [take, bind_of_ok hspelling, takeName_run]

theorem atMark_run {spelling : String} {holds : Bool} (h : s.token.isMark spelling = holds) :
    atMark spelling s = .ok holds s := by
  rw [atMark, bind_of_ok (token_run s), h]
  rfl

theorem atWord_run {text : String} {holds : Bool} (h : s.token.isWord text = holds) :
    atWord text s = .ok holds s := by
  rw [atWord, bind_of_ok (token_run s), h]
  rfl

theorem eatMark_other {spelling : String} (h : s.token.isMark spelling = false) :
    eatMark spelling s = .ok false s := by
  rw [eatMark, bind_of_false (atMark_run h)]
  rfl

theorem eatMark_run {spelling : String} (h : s.token.IsOneOf [spelling]) : eatMark spelling s = .ok true s.past := by
  rw [eatMark, bind_of_true (atMark_run h.isMark_self), bind_of_ok (take_run h.escaped)]
  rfl

theorem expectMark_run {spelling : String} (h : s.token.IsOneOf [spelling]) :
    expectMark spelling s = .ok () s.past := by
  rw [expectMark, bind_of_true (atMark_run h.isMark_self), take_run h.escaped]

theorem within_run {change : Context → Context} {p : Parse α} {a : α}
    (h : p { s with context := change s.context } = .ok a s') :
    within change p s = .ok a { s' with context := s.context } := by
  rw [within, bind_of_ok (context_run s)]
  show (p >>= fun result => (modify fun s' => { s' with context := s.context }) >>= fun _ => pure result)
    { s with context := change s.context } = _
  rw [bind_of_ok h]
  rfl

theorem many_none {step : Parse (Option α)} (h : step s = .ok none s') {limit : Nat} (hlimit : 0 < limit)
    (found : List α) : many step limit found s = .ok found.reverse s' := by
  obtain ⟨n, rfl⟩ := Nat.exists_eq_succ_of_ne_zero (Nat.ne_of_gt hlimit)
  rw [many, bind_of_ok h]
  rfl

theorem many_some {step : Parse (Option α)} {item : α} (h : step s = .ok (some item) s') (limit : Nat)
    (found : List α) : many step (limit + 1) found s = many step limit (item :: found) s' := by
  rw [many, bind_of_ok h]

/-! ### What a plain token does not open -/

section Plain

variable (h : s.token.IsPlain)
include h

theorem atFunction_plain : atFunction s = .ok false s := by
  rw [atFunction, bind_of_ok (token_run s), h.isWord "function" rfl, if_neg Bool.false_ne_true, h.isWord "async" rfl,
    if_neg Bool.false_ne_true]
  rfl

theorem atUsing_plain : atUsing s = .ok false s := by
  rw [atUsing, bind_of_ok (token_run s), h.isWord "using" rfl, if_neg Bool.false_ne_true, h.isWord "await" rfl,
    if_neg Bool.false_ne_true]
  rfl

theorem startsYield_plain : startsYield s = .ok false s := by
  rw [startsYield, bind_of_false (atWord_run (h.isWord "yield" rfl))]
  rfl

theorem startsAwait_plain : startsAwait s = .ok false s := by
  rw [startsAwait, bind_of_false (atWord_run (h.isWord "await" rfl))]
  rfl

theorem parenthesizedArrow?_plain (d : Descent) : parenthesizedArrow? d s = .ok none s := by
  have hlikelihood : arrowLikelihood s = .ok .no s := by
    rw [arrowLikelihood, bind_of_ok (token_run s), h.isWord "async" rfl, if_neg Bool.false_ne_true]
    dsimp only
    rw [h.isMark, if_neg Bool.false_ne_true, h.isMark, if_neg Bool.false_ne_true]
    rfl
  rw [parenthesizedArrow?, bind_of_ok hlikelihood]
  rfl

theorem asyncArrow?_plain (d : Descent) : asyncArrow? d s = .ok none s := by
  rw [asyncArrow?, bind_of_false (atWord_run (h.isWord "async" rfl))]
  rfl

theorem argument_plain (d : Descent) : argument d s = d.parse .assignment s := by
  rw [argument, bind_of_false (atMark_run (h.isMark _))]

theorem keepDecorators_plain {d : Descent} (hlimit : 0 < d.limit) : keepDecorators d s = .ok () s := by
  have hstep : (do
      if ← atMark "@" then
        take
        let inner ← within (fun c => { c with inDecorator := true }) (d.parse .leftHand)
        return some (.decorator inner)
      else return none : Parse (Option Node)) s = .ok none s := by
    rw [bind_of_false (atMark_run (h.isMark _))]
    rfl
  rw [keepDecorators, bind_of_ok (many_none hstep hlimit [])]
  show EStateM.Result.ok () { s with decorators := s.decorators ++ [] } = _
  rw [List.append_nil]

end Plain

theorem wordStatement_plain (d : Descent) (role : Role) (h : s.token.isPlainName = true) :
    wordStatement d role s.token s = expressionStatement d s := by
  have hplain := Token.isPlain_name h
  have hother : (do
      if ← atFunction then functionStatement d role
      else if ← atUsing then usingStatement d
      else expressionStatement d : Parse Node) s = expressionStatement d s := by
    rw [bind_of_false (atFunction_plain hplain), bind_of_false (atUsing_plain hplain)]
  rw [wordStatement]
  refine (congrFun ?_ s).trans hother
  split
  case h_19 => rfl
  all_goals next hword => exact absurd hword (Token.text_ne_of_isPlainName h rfl)

/-! ### From an operand to an expression -/

section Expression

variable {d : Descent} {node : Node}

theorem update_of_leftHand (h : leftHand d s = .ok node s') (hplain : s.token.IsPlain)
    (hclosing : s'.token.IsOneOf Token.closing) : update d s = .ok node s' := by
  rw [update, bind_of_ok (token_run s), hplain.isUpdateOperator, if_neg Bool.false_ne_true, bind_of_ok h,
    bind_of_ok (token_run s'), hclosing.isUpdateOperator, Bool.false_and, if_neg Bool.false_ne_true]
  rfl

theorem unary_of_leftHand (h : leftHand d s = .ok node s') (hplain : s.token.IsPlain)
    (hclosing : s'.token.IsOneOf Token.closing) : unary d s = .ok node s' := by
  rw [unary, bind_of_ok (token_run s), hplain.isPrefixOperator, if_neg Bool.false_ne_true, hplain.isMark,
    if_neg Bool.false_ne_true, bind_of_false (startsAwait_plain hplain), update_of_leftHand h hplain hclosing]

theorem operationsFrom_closing (floor : Nat) {limit : Nat} (hlimit : 0 < limit) (left : Node)
    (hclosing : s.token.IsOneOf Token.closing) : operationsFrom d floor limit left s = .ok left s := by
  obtain ⟨n, rfl⟩ := Nat.exists_eq_succ_of_ne_zero (Nat.ne_of_gt hlimit)
  rw [operationsFrom, bind_of_false (atMark_run (hclosing.isMark_other (by decide)))]
  dsimp only
  rw [bind_of_ok (token_run s), hclosing.precedence?]
  rfl

theorem binary_of_leftHand (h : leftHand d s = .ok node s') (hplain : s.token.IsPlain)
    (hclosing : s'.token.IsOneOf Token.closing) (hlimit : 0 < d.limit) (floor : Nat) :
    binary d floor s = .ok node s' := by
  rw [binary, bind_of_ok (context_run s), bind_of_ok (token_run s), hplain.isPrivate, Bool.and_false,
    if_neg Bool.false_ne_true, bind_of_ok (unary_of_leftHand h hplain hclosing)]
  exact operationsFrom_closing floor hlimit node hclosing

theorem assignment_of_leftHand (h : leftHand d s = .ok node s') (hplain : s.token.IsPlain)
    (hclosing : s'.token.IsOneOf Token.closing) (hlimit : 0 < d.limit) : assignment d s = .ok node s' := by
  rw [assignment, bind_of_false (startsYield_plain hplain), bind_of_ok (parenthesizedArrow?_plain hplain d)]
  dsimp only
  rw [bind_of_ok (asyncArrow?_plain hplain d)]
  dsimp only
  rw [bind_of_ok (binary_of_leftHand h hplain hclosing hlimit 0), bind_of_ok (token_run s'),
    hclosing.isMark_other (by decide), Bool.and_false, if_neg Bool.false_ne_true, hclosing.isAssignment,
    if_neg Bool.false_ne_true, conditional, bind_of_false (eatMark_other (hclosing.isMark_other (by decide)))]
  rfl

theorem expression_of_assignment (h : d.parse .assignment s = .ok node s')
    (hclosing : s'.token.IsOneOf Token.closing) (hlimit : 0 < d.limit) (hbefore : s.context.inDecorator = false)
    (hafter : s'.context.inDecorator = false) : expression d s = .ok node s' := by
  have hkeep : ∀ s : State, s.context.inDecorator = false →
      (modify fun s => { s with context := { s.context with inDecorator := false } } : Parse PUnit) s = .ok () s := by
    intro s hs
    show EStateM.Result.ok () { s with context := { s.context with inDecorator := false } } = _
    rw [← hs]
  have hfurther : (do if ← eatMark "," then some <$> d.parse .assignment else return none : Parse (Option Node)) s'
      = .ok none s' := by
    rw [bind_of_false (eatMark_other (hclosing.isMark_other (by decide)))]
    rfl
  rw [expression, bind_of_ok (context_run s), hbefore, bind_of_ok (hkeep s hbefore), bind_of_ok h,
    bind_of_ok (many_none hfurther hlimit []), bind_of_ok (hkeep s' hafter)]
  rfl

end Expression

/-! ### Names, strings and calls -/

section Operand

variable {d : Descent} (hlimit : 0 < d.limit)
include hlimit

omit hlimit in
theorem stringLiteral_run (h : s.token.kind = .string) (hescaped : s.token.escaped = false) :
    stringLiteral s = .ok ⟨s.token.text⟩ s.past := by
  rw [stringLiteral, bind_of_ok (token_run s), h, if_pos (beq_self_eq_true _)]
  dsimp only
  rw [bind_of_ok (take_run hescaped)]
  rfl

theorem primary_string (h : s.token.kind = .string) (hescaped : s.token.escaped = false) :
    primary d s = .ok (.string ⟨s.token.text⟩) s.past := by
  have hplain := Token.isPlain_string h
  have hliteral : s.token.isLiteral = true := by
    rw [Token.isLiteral, h]
    rfl
  rw [primary, bind_of_ok (keepDecorators_plain hplain hlimit), bind_of_false (atFunction_plain hplain),
    bind_of_ok (token_run s), if_pos hliteral, literal, bind_of_ok (token_run s), h]
  exact map_of_ok (stringLiteral_run h hescaped)

omit hlimit in
theorem bindingName_plain (h : s.token.isPlainName = true) : bindingName s = .ok (.name s.token.text) s.past := by
  have hawait : (s.token.text == "await") = false := beq_eq_false_iff_ne.2 (Token.text_ne_of_isPlainName h rfl)
  have hyield : (s.token.text == "yield") = false := beq_eq_false_iff_ne.2 (Token.text_ne_of_isPlainName h rfl)
  have hcheck : checkName s.token.text s.past = .ok () s.past := by
    rw [checkName, bind_of_ok (context_run s.past), hawait, hyield, Bool.and_false, Bool.and_false]
    rfl
  rw [bindingName, bind_of_ok (token_run s), if_pos (Token.isBindingName_of_isPlainName h)]
  dsimp only
  rw [bind_of_ok (takeName_run s), bind_of_ok hcheck]
  rfl

theorem primary_name (h : s.token.isPlainName = true) : primary d s = .ok (.name s.token.text) s.past := by
  have hplain := Token.isPlain_name h
  have hkind : s.token.kind = .word := eq_of_beq (Bool.and_eq_true_iff.1 h).1
  have hliteral : s.token.isLiteral = false := by
    rw [Token.isLiteral, hkind, hplain.isWord "null" rfl, hplain.isWord "true" rfl, hplain.isWord "false" rfl]
    rfl
  rw [primary, bind_of_ok (keepDecorators_plain hplain hlimit), bind_of_false (atFunction_plain hplain),
    bind_of_ok (token_run s), hliteral, if_neg Bool.false_ne_true, hkind]
  dsimp only
  refine (congrFun ?_ s).trans (bindingName_plain h)
  split
  case h_6 => rfl
  all_goals next hword => exact absurd hword (Token.text_ne_of_isPlainName h rfl)

theorem membersFrom_other (operand : Node) (inChain : Bool) (h : s.token.IsOneOf ["(", ")", ";"]) :
    membersFrom d d.limit operand inChain s = .ok (operand, inChain) s := by
  obtain ⟨n, hn⟩ := Nat.exists_eq_succ_of_ne_zero (Nat.ne_of_gt hlimit)
  rw [hn, membersFrom, bind_of_ok (token_run s), h.isTemplate, if_neg Bool.false_ne_true, h.isMark_other (by decide),
    if_neg Bool.false_ne_true, bind_of_ok (context_run s), h.isMark_other (by decide), Bool.false_and,
    if_neg Bool.false_ne_true, h.isMark_other (by decide), if_neg Bool.false_ne_true]
  rfl

theorem callsFrom_closing {limit : Nat} (hpos : 0 < limit) (operand : Node)
    (hclosing : s.token.IsOneOf Token.closing) :
    callsFrom d limit operand false s = .ok (operand, false) s := by
  obtain ⟨n, rfl⟩ := Nat.exists_eq_succ_of_ne_zero (Nat.ne_of_gt hpos)
  rw [callsFrom, bind_of_ok (membersFrom_other hlimit operand false (hclosing.mono (by decide)))]
  dsimp only
  rw [bind_of_ok (eatMark_other (hclosing.isMark_other (by decide))),
    bind_of_false (atMark_run (hclosing.isMark_other (by decide)))]
  rfl

theorem leftHand_string (h : s.token.kind = .string) (hescaped : s.token.escaped = false)
    (hclosing : s.past.token.IsOneOf Token.closing) : leftHand d s = .ok (.string ⟨s.token.text⟩) s.past := by
  rw [leftHand, bind_of_ok (primary_string hlimit h hescaped),
    bind_of_ok (membersFrom_other hlimit _ false (hclosing.mono (by decide)))]
  dsimp only
  rw [map_of_ok (callsFrom_closing hlimit hlimit _ hclosing)]
  rfl

end Operand

/-- A list of one item ends with it. -/
theorem list_one {d : Descent} (hlimit : 1 < d.limit) {item : Parse Node} {node : Node} {close : String}
    (hplain : s.token.IsPlain) (h : item s = .ok node s') (hclose : s'.token.isMark close = true) :
    list d close item s = .ok [node] s' := by
  obtain ⟨n, hn⟩ : ∃ n, d.limit = n + 2 := ⟨d.limit - 2, by omega⟩
  have hlast : listFrom close true item (n + 1) [node] s' = .ok ([node], false) s' := by
    rw [listFrom, bind_of_ok (token_run s'), hclose, Bool.true_or, if_pos rfl]
    rfl
  have hfirst : listFrom close true item d.limit [] s = .ok ([node], false) s' := by
    rw [hn, listFrom, bind_of_ok (token_run s), hplain.isMark, hplain.isDone, Bool.or_self, if_neg Bool.false_ne_true,
      if_neg (by decide)]
    dsimp only
    rw [bind_of_ok (atMark_run (hplain.isMark close)), Bool.and_false, if_neg Bool.false_ne_true, bind_of_ok h, hlast]
  rw [list, bind_of_ok hfirst]
  rfl

theorem assignment_string (n : Nat) (h : s.token.kind = .string) (hescaped : s.token.escaped = false)
    (hclosing : s.past.token.IsOneOf Token.closing) :
    descend (n + 2) .assignment s = .ok (.string ⟨s.token.text⟩) s.past :=
  assignment_of_leftHand (leftHand_string (d := ⟨descend (n + 1), n + 1⟩) n.succ_pos h hescaped hclosing)
    (Token.isPlain_string h) hclosing n.succ_pos

theorem arguments_string (n : Nat) (hopening : s.token.IsOneOf ["("]) (h : s.past.token.kind = .string)
    (hescaped : s.past.token.escaped = false) (hclose : s.past.past.token.IsOneOf [")"]) :
    arguments ⟨descend (n + 2), n + 2⟩ s = .ok [.string ⟨s.past.token.text⟩] s.past.past.past := by
  have hplain := Token.isPlain_string h
  have hlist : ∀ c : Context, list ⟨descend (n + 2), n + 2⟩ ")" (argument ⟨descend (n + 2), n + 2⟩)
      { s.past with context := c } = .ok [.string ⟨s.past.token.text⟩] { s.past.past with context := c } := by
    intro c
    refine list_one (s := { s.past with context := c }) (Nat.succ_lt_succ n.succ_pos) hplain ?_ hclose.isMark_self
    rw [argument_plain (s := { s.past with context := c }) hplain]
    exact assignment_string (s := { s.past with context := c }) n h hescaped (hclose.mono (by decide))
  have hwithin : within (fun c => { c with inOperator := true, inDecorator := false })
      (list ⟨descend (n + 2), n + 2⟩ ")" (argument ⟨descend (n + 2), n + 2⟩)) s.past
      = .ok [.string ⟨s.past.token.text⟩] s.past.past :=
    within_run (hlist _)
  rw [arguments, bind_of_ok (expectMark_run hopening), bind_of_ok hwithin, bind_of_ok (expectMark_run hclose)]
  rfl

/-- The next five tokens call a function with a string, and end the statement. -/
structure State.AtCall (s : State) (name value : String) : Prop where
  isPlainName : s.token.isPlainName = true
  name : s.token.text = name
  opening : s.past.token.IsOneOf ["("]
  isString : s.past.past.token.kind = .string
  unescaped : s.past.past.token.escaped = false
  value : s.past.past.token.text = value
  close : s.past.past.past.token.IsOneOf [")"]
  ending : s.past.past.past.past.token.IsOneOf [";"]
  inDecorator : s.context.inDecorator = false

theorem endStatement_semicolon (h : s.token.IsOneOf [";"]) : endStatement s = .ok () s.past := by
  have hcanEnd : canEnd s = .ok true s := by
    rw [canEnd, bind_of_ok (token_run s), h.isMark_self]
    rfl
  rw [endStatement, bind_of_true hcanEnd, bind_of_ok (eatMark_run h)]
  rfl

section Call

variable {name value : String} (h : s.AtCall name value) (n : Nat)
include h

theorem leftHand_call :
    leftHand ⟨descend (n + 2), n + 2⟩ s = .ok (.call (.name name) [.string ⟨value⟩]) s.past.past.past.past := by
  have hlimit : 0 < n + 2 := (n + 1).succ_pos
  have hmembers := membersFrom_other (d := ⟨descend (n + 2), n + 2⟩) hlimit (.name s.token.text) false
    (h.opening.mono (by decide))
  have hcalls : callsFrom ⟨descend (n + 2), n + 2⟩ (n + 2) (.name s.token.text) false s.past
      = .ok (.call (.name s.token.text) [.string ⟨s.past.past.token.text⟩], false) s.past.past.past.past := by
    rw [callsFrom, bind_of_ok hmembers]
    dsimp only
    rw [bind_of_ok (eatMark_other (h.opening.isMark_other (by decide))),
      bind_of_true (atMark_run h.opening.isMark_self),
      bind_of_ok (arguments_string n h.opening h.isString h.unescaped h.close), Bool.or_false]
    exact callsFrom_closing hlimit n.succ_pos _ (h.ending.mono (by decide))
  rw [leftHand, bind_of_ok (primary_name hlimit h.isPlainName), bind_of_ok hmembers]
  dsimp only
  rw [map_of_ok hcalls, h.name, h.value]
  rfl

/-- A call is read as a statement of its own, and the parser goes on behind it. -/
theorem statement_call :
    descend (n + 5) (.statement .listed) s
      = .ok (.expressionStatement (.call (.name name) [.string ⟨value⟩])) s.past.past.past.past.past := by
  have hplain := Token.isPlain_name h.isPlainName
  have hword : (s.token.kind == .word) = true := (Bool.and_eq_true_iff.1 h.isPlainName).1
  have hclosing : s.past.past.past.past.token.IsOneOf Token.closing := h.ending.mono (by decide)
  have hassignment : descend (n + 3) .assignment s
      = .ok (.call (.name name) [.string ⟨value⟩]) s.past.past.past.past :=
    assignment_of_leftHand (leftHand_call h n) hplain hclosing (n + 1).succ_pos
  have hexpression : descend (n + 4) .expression s
      = .ok (.call (.name name) [.string ⟨value⟩]) s.past.past.past.past :=
    expression_of_assignment (d := ⟨descend (n + 3), n + 3⟩) hassignment hclosing (n + 2).succ_pos h.inDecorator
      h.inDecorator
  show statement ⟨descend (n + 4), n + 4⟩ .listed s = _
  rw [statement, bind_of_ok (keepDecorators_plain hplain (n + 3).succ_pos), bind_of_ok (token_run s), if_pos hword,
    wordStatement_plain _ _ h.isPlainName, expressionStatement, bind_of_ok hexpression,
    bind_of_ok (eatMark_other (hclosing.isMark_other (by decide))), Bool.and_false, if_neg Bool.false_ne_true,
    bind_of_ok (endStatement_semicolon h.ending)]
  rfl

end Call

end Parser

end LinkSurvey.Script
