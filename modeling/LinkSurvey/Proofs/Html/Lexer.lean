import LinkSurvey.Html.Lexer
import Mathlib.Data.List.Basic

/-!
Tags and text as a lexer reads them, if they are written as plainly as can be: lower case names, at most
one attribute, its value between double quotes, and in the value no ampersand and no double quote but by
its name. Each tag is then handed on as it was written, and the text in it comes in pieces that make it up.
-/

namespace LinkSurvey.Html

/-! ### How markup is written -/

/-- A name of lower case letters. -/
def IsPlainName (name : Text) : Prop :=
  ∀ c ∈ name, c.isLower = true

/-- A value that is read as it is written. -/
def IsValue (value : Text) : Prop :=
  ∀ c ∈ value, c ≠ '\r' ∧ c ≠ '\x00'

/-- A text that holds neither the start of a tag nor a character that is read as another one. -/
def IsRawText (text : Text) : Prop :=
  ∀ c ∈ text, c ≠ '<' ∧ c ≠ '\r' ∧ c ≠ '\x00'

/-- An attribute that is read as it is written, if there is one. -/
def IsPlainAttribute (attr : Option (Text × Text)) : Prop :=
  ∀ a ∈ attr, IsPlainName a.1 ∧ a.1 ≠ [] ∧ IsValue a.2

theorem isPlainAttribute_none : IsPlainAttribute none :=
  fun _ ha => nomatch ha

instance : DecidablePred IsPlainName :=
  fun name => List.decidableBAll _ name

instance : DecidablePred IsValue :=
  fun value => List.decidableBAll _ value

instance : DecidablePred IsRawText :=
  fun text => List.decidableBAll _ text

/-- A character in a value between double quotes. -/
def quoted (c : Char) : Text :=
  if c = '&' then "&amp;".toList else if c = '"' then "&quot;".toList else [c]

/-- The attribute of a tag, if it has one. -/
def attributeText : Option (Text × Text) → Text
  | none => []
  | some (key, value) => ' ' :: key ++ '=' :: '"' :: (value.flatMap quoted ++ ['"'])

def startText (name : Text) (attr : Option (Text × Text)) : Text :=
  '<' :: name ++ attributeText attr ++ ['>']

def endText (name : Text) : Text :=
  '<' :: '/' :: name ++ ['>']

namespace Lexer

variable {m : Lexer} {b b' : Builder} {c : Char} {kind : RawKind}

/-! ### Letters -/

theorem isAlpha_of_isLower (h : c.isLower = true) : c.isAlpha = true := by
  show (c.isUpper || c.isLower) = true
  rw [h, Bool.or_true]

theorem toLower_of_isLower (h : c.isLower = true) : c.toLower = c := by
  have hletter : (decide ('a'.val ≤ c.val) && decide (c.val ≤ 'z'.val)) = true := h
  have hlow : 'a'.val.toNat ≤ c.val.toNat :=
    UInt32.le_iff_toNat_le.1 (of_decide_eq_true (Bool.and_eq_true_iff.1 hletter).1)
  have hcapital : ¬('A'.val ≤ c.val ∧ c.val ≤ 'Z'.val) := by
    have hbounds : 'Z'.val.toNat < 'a'.val.toNat := by decide
    rw [UInt32.le_iff_toNat_le, UInt32.le_iff_toNat_le]
    omega
  exact dif_neg hcapital

/-- A lower case letter is none of the characters that mean something in markup. -/
theorem ne_of_isLower {d : Char} (h : c.isLower = true) (hd : d.isLower = false) : c ≠ d := by
  rintro rfl
  rw [h] at hd
  cases hd

theorem isSpace_of_isLower (h : c.isLower = true) : isSpace c = false := by
  simp only [isSpace, Bool.or_eq_false_iff, beq_eq_false_iff_ne]
  exact ⟨⟨⟨⟨ne_of_isLower h rfl, ne_of_isLower h rfl⟩, ne_of_isLower h rfl⟩, ne_of_isLower h rfl⟩,
    ne_of_isLower h rfl⟩

/-! ### Names -/

theorem step_plain (href : m.reference = none) (hbefore : m.before = .nothing) (hc : c ≠ '\r') :
    m.step c = m.plainStep false c := by
  simp [step, read, href, hbefore, hc]

theorem step_letter (href : m.reference = none) (hbefore : m.before = .nothing) (hc : c.isLower = true) :
    m.step c = m.plainStep false c :=
  step_plain href hbefore (ne_of_isLower hc rfl)

theorem foldl_tagName {name : Text} (hname : IsPlainName name) (hstate : m.state = .tagName)
    (href : m.reference = none) (hbefore : m.before = .nothing) :
    name.foldl step m = { m with tagName := name.reverse ++ m.tagName } := by
  induction name generalizing m with
  | nil => rfl
  | cons c name ih =>
      obtain ⟨hc, hname⟩ := List.forall_mem_cons.1 hname
      have hstep : m.step c = { m with tagName := c :: m.tagName } := by
        simp only [step_letter href hbefore hc, plainStep, hstate, tagNameStep, isSpace_of_isLower hc,
          ne_of_isLower hc (d := '/') rfl, ne_of_isLower hc (d := '>') rfl, ne_of_isLower hc (d := '\x00') rfl,
          toLower_of_isLower hc, Bool.false_eq_true, if_false]
      rw [List.foldl_cons, hstep, ih hname (m := { m with tagName := c :: m.tagName }) hstate href hbefore,
        List.reverse_cons, List.append_assoc, List.singleton_append]

theorem foldl_name {key : Text} (hkey : IsPlainName key) (hstate : m.state = .name)
    (href : m.reference = none) (hbefore : m.before = .nothing) :
    key.foldl step m = { m with attributeName := key.reverse ++ m.attributeName } := by
  induction key generalizing m with
  | nil => rfl
  | cons c key ih =>
      obtain ⟨hc, hkey⟩ := List.forall_mem_cons.1 hkey
      have hstep : m.step c = { m with attributeName := c :: m.attributeName } := by
        simp only [step_letter href hbefore hc, plainStep, hstate, nameStep, isSpace_of_isLower hc,
          ne_of_isLower hc (d := '/') rfl, ne_of_isLower hc (d := '=') rfl, ne_of_isLower hc (d := '>') rfl,
          ne_of_isLower hc (d := '\x00') rfl, ne_of_isLower hc (d := '"') rfl, ne_of_isLower hc (d := '\'') rfl,
          ne_of_isLower hc (d := '<') rfl, toLower_of_isLower hc, Bool.false_eq_true, Bool.or_false,
          decide_false, if_false]
      rw [List.foldl_cons, hstep, ih hkey (m := { m with attributeName := c :: m.attributeName }) hstate href
        hbefore, List.reverse_cons, List.append_assoc, List.singleton_append]

/-! ### Delimiters by their names -/

theorem isNameStart_of_prefix {e : EntityName} (he : e ∈ delimiterNames) {text : Text}
    (htext : text <+: e.name ++ [';']) : isNameStart text = true := by
  rw [isNameStart, Bool.or_eq_true]
  exact Or.inl (List.any_eq_true.2 ⟨e, he, List.isPrefixOf_iff_prefix.2 htext⟩)

theorem meaning?_delimiter {e : EntityName} (he : e ∈ delimiterNames) :
    meaning? (e.name ++ [';']) = some e.meaning := by
  simp only [delimiterNames, List.mem_cons, List.not_mem_nil, or_false] at he
  rcases he with rfl | rfl | rfl | rfl <;> rfl

theorem name_ne_nil {e : EntityName} (he : e ∈ delimiterNames) : e.name ≠ [] := by
  simp only [delimiterNames, List.mem_cons, List.not_mem_nil, or_false] at he
  rcases he with rfl | rfl | rfl | rfl <;> exact List.cons_ne_nil _ _

theorem isPlainName_delimiter {e : EntityName} (he : e ∈ delimiterNames) : IsPlainName e.name := by
  simp only [delimiterNames, List.mem_cons, List.not_mem_nil, or_false] at he
  rcases he with rfl | rfl | rfl | rfl <;> decide

/-- While a name may go on, what it means so far does not matter. -/
theorem namedStep_letter {seen : Text} (best : Option (Text × Nat)) (hc : c.isLower = true)
    (hstart : isNameStart (c :: seen).reverse = true) :
    ∃ next, m.namedStep seen best c = { m with reference := some (.named (c :: seen) next) } := by
  have hreturn : (c == '\r') = false := beq_eq_false_iff_ne.2 (ne_of_isLower hc rfl)
  simp only [namedStep, hreturn, Bool.false_eq_true, if_false, hstart, if_true, ne_of_isLower hc (d := ';') rfl]
  exact ⟨_, rfl⟩

theorem foldl_named {e : EntityName} (he : e ∈ delimiterNames) {seen : Text} (rest : Text)
    (hname : e.name = seen.reverse ++ rest) {best : Option (Text × Nat)}
    (href : m.reference = some (.named seen best)) :
    ∃ last, rest.foldl step m = { m with reference := some (.named e.name.reverse last) } := by
  induction rest generalizing m seen best with
  | nil =>
      refine ⟨best, ?_⟩
      rw [hname, List.append_nil, List.reverse_reverse, ← href]
      rfl
  | cons c rest ih =>
      have hc : c.isLower = true := isPlainName_delimiter he c (by simp [hname])
      have hstart : isNameStart (c :: seen).reverse = true := by
        refine isNameStart_of_prefix he ⟨rest ++ [';'], ?_⟩
        simp [hname]
      obtain ⟨next, hstep⟩ := namedStep_letter (m := m) best hc hstart
      rw [List.foldl_cons, step, href]
      dsimp only
      rw [hstep]
      exact ih (by simp [hname]) rfl

/-! ### Attribute values -/

/-- A lexer that is in a value between double quotes. After a reference it still looks ahead, but in a value
that makes no difference. -/
structure InValue (m : Lexer) : Prop where
  state_eq : m.state = .value (some '"')
  reference_eq : m.reference = none
  before_eq : m.before = .nothing ∨ m.before = .reference

theorem InValue.step_eq (h : m.InValue) (hc : c ≠ '\r') :
    m.step c = ({ m with before := .nothing } : Lexer).valueStep (some '"') (m.before == .reference) c := by
  obtain ⟨hstate, href, hbefore⟩ := h
  cases m
  subst hstate href
  rcases hbefore with rfl | rfl
  · simp only [step, read, hc, plainStep, decide_false, Bool.and_false, Bool.false_eq_true, if_false]
    rfl
  · simp only [step, read, hc, plainStep, if_false]
    rfl

theorem InValue.step_ampersand (h : m.InValue) :
    m.step '&' = { m with before := .nothing, reference := some .start } := by
  rw [h.step_eq (by decide)]
  rfl

theorem InValue.step_quote (h : m.InValue) :
    m.step '"' = { m with before := .nothing, state := .afterValue } := by
  rw [h.step_eq (by decide)]
  rfl

theorem InValue.step_other (h : m.InValue) (hc : c ≠ '&' ∧ c ≠ '"' ∧ c ≠ '\r' ∧ c ≠ '\x00') :
    m.step c = { m with before := .nothing, attributeValue := c :: m.attributeValue } := by
  obtain ⟨hamp, hquote, hreturn, hnull⟩ := hc
  rw [h.step_eq hreturn]
  simp [valueStep, hamp, hquote, hnull, pushValue]

/-- The first letter of a name comes right after the ampersand. -/
theorem step_start (hstate : m.state = .value (some '"')) (href : m.reference = some .start)
    (hc : c.isLower = true) : m.step c = m.namedStep [] none c := by
  have hclosing : m.closing = some '"' := by
    rw [closing, hstate]
  simp only [step, href, hclosing, Option.some.injEq, ne_of_isLower hc (d := '\t') rfl,
    ne_of_isLower hc (d := '\n') rfl, ne_of_isLower hc (d := '\x0c') rfl, ne_of_isLower hc (d := ' ') rfl,
    ne_of_isLower hc (d := '<') rfl, ne_of_isLower hc (d := '&') rfl, ne_of_isLower hc (d := '"') rfl,
    ne_of_isLower hc (d := '#') rfl, decide_false, Bool.or_false, Bool.false_eq_true, if_false]

theorem foldl_pushValue (text : Text) (m : Lexer) :
    text.foldl pushValue m = { m with attributeValue := text.reverse ++ m.attributeValue } := by
  induction text generalizing m with
  | nil => rfl
  | cons c text ih =>
      rw [List.foldl_cons, ih, List.reverse_cons, List.append_assoc, List.singleton_append]
      rfl

/-- The semicolon ends the name, and what it means is put into the value. -/
theorem step_semicolon {e : EntityName} (he : e ∈ delimiterNames) {best : Option (Text × Nat)}
    (hstate : m.state = .value (some '"')) (href : m.reference = some (.named e.name.reverse best)) :
    m.step ';' = { m with
      reference := none, before := .reference, attributeValue := e.meaning.reverse ++ m.attributeValue } := by
  have hreturn : (';' == '\r') = false := rfl
  have htext : (';' :: e.name.reverse).reverse = e.name ++ [';'] := by
    rw [List.reverse_cons, List.reverse_reverse]
  have hstart := isNameStart_of_prefix he (List.prefix_refl _)
  simp only [step, href, namedStep, hreturn, Bool.false_eq_true, if_false, htext, hstart, if_true,
    meaning?_delimiter he, putMeaning, hstate, foldl_pushValue]

theorem foldl_start {e : EntityName} (he : e ∈ delimiterNames) (hstate : m.state = .value (some '"'))
    (href : m.reference = some .start) :
    (e.name ++ [';']).foldl step m = { m with
      reference := none, before := .reference, attributeValue := e.meaning.reverse ++ m.attributeValue } := by
  obtain ⟨c, rest, hname⟩ := List.exists_cons_of_ne_nil (name_ne_nil he)
  have hc : c.isLower = true := isPlainName_delimiter he c (by simp [hname])
  have hstart : isNameStart [c].reverse = true :=
    isNameStart_of_prefix he ⟨rest ++ [';'], by simp [hname]⟩
  obtain ⟨next, hfirst⟩ := namedStep_letter (m := m) none hc hstart
  obtain ⟨last, hrest⟩ := foldl_named (m := { m with reference := some (.named [c] next) }) he rest
    (by simp [hname]) rfl
  have hletters : (c :: rest).foldl step m = { m with reference := some (.named e.name.reverse last) } := by
    rw [List.foldl_cons, step_start hstate href hc, hfirst, hrest]
  rw [List.foldl_append, hname, hletters]
  exact step_semicolon (m := { m with reference := some (.named e.name.reverse last) }) he hstate rfl

theorem InValue.foldl_delimiter (h : m.InValue) {e : EntityName} (he : e ∈ delimiterNames) :
    ('&' :: e.name ++ [';']).foldl step m
      = { m with before := .reference, attributeValue := e.meaning.reverse ++ m.attributeValue } := by
  rw [List.cons_append, List.foldl_cons, h.step_ampersand,
    foldl_start (m := { m with before := .nothing, reference := some .start }) he h.state_eq rfl, ← h.reference_eq]

theorem InValue.foldl_quoted (h : m.InValue) (hc : c ≠ '\r' ∧ c ≠ '\x00') :
    ∃ before, (before = .nothing ∨ before = .reference) ∧
      (quoted c).foldl step m = { m with before, attributeValue := c :: m.attributeValue } := by
  rw [quoted]
  split_ifs with hamp hquote
  · refine ⟨.reference, Or.inr rfl, ?_⟩
    rw [hamp]
    exact h.foldl_delimiter (e := ⟨['a', 'm', 'p'], true, ['&']⟩) (by simp [delimiterNames])
  · refine ⟨.reference, Or.inr rfl, ?_⟩
    rw [hquote]
    exact h.foldl_delimiter (e := ⟨['q', 'u', 'o', 't'], true, ['"']⟩) (by simp [delimiterNames])
  · exact ⟨.nothing, Or.inl rfl, h.step_other ⟨hamp, hquote, hc⟩⟩

theorem InValue.foldl_value (h : m.InValue) {value : Text} (hvalue : IsValue value) :
    (value.flatMap quoted ++ ['"']).foldl step m = { m with
      before := .nothing, state := .afterValue, attributeValue := value.reverse ++ m.attributeValue } := by
  induction value generalizing m with
  | nil => exact h.step_quote
  | cons c value ih =>
      obtain ⟨hc, hvalue⟩ := List.forall_mem_cons.1 hvalue
      obtain ⟨before, hbefore, hstep⟩ := h.foldl_quoted hc
      have hnext : InValue { m with before, attributeValue := c :: m.attributeValue } :=
        ⟨h.state_eq, h.reference_eq, hbefore⟩
      rw [List.flatMap_cons, List.append_assoc, List.foldl_append, hstep, ih hnext hvalue, List.reverse_cons,
        List.append_assoc, List.singleton_append]

/-! ### Tags -/

/-- A lexer with nothing pending, in this state and with this builder. -/
structure Ready (m : Lexer) (state : LexState) (b : Builder) : Prop where
  state_eq : m.state = state
  builder_eq : m.builder = b
  reference_eq : m.reference = none
  before_eq : m.before = .nothing
  run_eq : m.run = []
  attributeName_eq : m.attributeName = []
  attributeValue_eq : m.attributeValue = []

theorem Ready.step_open (h : m.Ready .data b) : m.step '<' = m.enter .tagOpen := by
  rw [step_plain h.reference_eq h.before_eq (by decide)]
  simp only [plainStep, h.state_eq, dataStep, flush, h.run_eq]
  rfl

/-- A lexer that has read the name of a tag. -/
def opened (m : Lexer) (isEnd : Bool) (name : Text) : Lexer :=
  { m with state := .tagName, tagName := name.reverse, isEnd, isSelfClosing := false, attributes := [] }

/-- After a letter the rest of a name is read alike in start tags and end tags. -/
theorem foldl_opened {isEnd : Bool} (hstep : m.step c = (m.startTag isEnd c).enter .tagName)
    {rest : Text} (hrest : IsPlainName rest) (href : m.reference = none) (hbefore : m.before = .nothing) :
    (c :: rest).foldl step m = m.opened isEnd (c :: rest) := by
  rw [List.foldl_cons, hstep,
    foldl_tagName (m := (m.startTag isEnd c).enter .tagName) hrest rfl href hbefore, opened, List.reverse_cons]
  rfl

theorem Ready.foldl_start (h : m.Ready .data b) {name : Text} (hname : IsPlainName name) (hne : name ≠ []) :
    ('<' :: name).foldl step m = m.opened false name := by
  obtain ⟨c, rest, rfl⟩ := List.exists_cons_of_ne_nil hne
  obtain ⟨hc, hrest⟩ := List.forall_mem_cons.1 hname
  have hstep : (m.enter .tagOpen).step c = ((m.enter .tagOpen).startTag false c).enter .tagName := by
    rw [step_letter (m := m.enter .tagOpen) h.reference_eq h.before_eq hc]
    simp only [plainStep, enter, tagOpenStep, ne_of_isLower hc (d := '!') rfl, ne_of_isLower hc (d := '/') rfl,
      ne_of_isLower hc (d := '?') rfl, isAlpha_of_isLower hc, toLower_of_isLower hc, if_true, if_false]
  rw [List.foldl_cons, h.step_open, foldl_opened hstep hrest h.reference_eq h.before_eq]
  rfl

theorem Ready.foldl_end (h : m.Ready .data b) {name : Text} (hname : IsPlainName name) (hne : name ≠ []) :
    ('<' :: '/' :: name).foldl step m = m.opened true name := by
  obtain ⟨c, rest, rfl⟩ := List.exists_cons_of_ne_nil hne
  obtain ⟨hc, hrest⟩ := List.forall_mem_cons.1 hname
  have hslash : (m.enter .tagOpen).step '/' = m.enter .endTagOpen :=
    step_plain h.reference_eq h.before_eq (by decide)
  have hstep : (m.enter .endTagOpen).step c = ((m.enter .endTagOpen).startTag true c).enter .tagName := by
    rw [step_letter (m := m.enter .endTagOpen) h.reference_eq h.before_eq hc]
    simp only [plainStep, enter, ne_of_isLower hc (d := '>') rfl, isAlpha_of_isLower hc, toLower_of_isLower hc,
      if_true, if_false]
  rw [List.foldl_cons, h.step_open, List.foldl_cons, hslash, foldl_opened hstep hrest h.reference_eq h.before_eq]
  rfl

/-- The attribute of a tag, up to the quote that closes its value. -/
theorem foldl_attribute {key value : Text} (hkey : IsPlainName key) (hne : key ≠ []) (hvalue : IsValue value)
    (hstate : m.state = .tagName) (href : m.reference = none) (hbefore : m.before = .nothing)
    (hname : m.attributeName = []) (hold : m.attributeValue = []) :
    (attributeText (some (key, value))).foldl step m = { m with
      state := .afterValue, attributeName := key.reverse, attributeValue := value.reverse } := by
  obtain ⟨c, rest, rfl⟩ := List.exists_cons_of_ne_nil hne
  obtain ⟨hc, hrest⟩ := List.forall_mem_cons.1 hkey
  have hspace : m.step ' ' = m.enter .beforeName := by
    simp only [step_plain href hbefore (by decide : ' ' ≠ '\r'), plainStep, hstate, tagNameStep]
    rfl
  have hfirst : (m.enter .beforeName).step c = { m with state := .name, attributeName := [c] } := by
    rw [step_letter (m := m.enter .beforeName) href hbefore hc]
    simp [plainStep, enter, attributeStep, isSpace_of_isLower hc, ne_of_isLower hc (d := '/') rfl,
      ne_of_isLower hc (d := '>') rfl, ne_of_isLower hc (d := '\x00') rfl, ne_of_isLower hc (d := '"') rfl,
      ne_of_isLower hc (d := '\'') rfl, ne_of_isLower hc (d := '<') rfl, ne_of_isLower hc (d := '=') rfl,
      startAttribute, finishAttribute, hname, toLower_of_isLower hc]
  have hkeyword := foldl_name (m := { m with state := .name, attributeName := [c] }) hrest rfl href hbefore
  have hequals : ({ m with state := .name, attributeName := rest.reverse ++ [c] } : Lexer).step '='
      = { m with state := .beforeValue, attributeName := rest.reverse ++ [c] } :=
    step_plain href hbefore (by decide)
  have hquote : ({ m with state := .beforeValue, attributeName := rest.reverse ++ [c] } : Lexer).step '"'
      = { m with state := .value (some '"'), attributeName := rest.reverse ++ [c] } :=
    step_plain href hbefore (by decide)
  have hread := InValue.foldl_value
    (m := { m with state := .value (some '"'), attributeName := rest.reverse ++ [c] })
    ⟨rfl, href, Or.inl hbefore⟩ hvalue
  rw [attributeText, List.cons_append, List.foldl_cons, hspace, List.cons_append, List.foldl_cons, hfirst,
    List.foldl_append, hkeyword, List.foldl_cons, hequals, List.foldl_cons, hquote, hread, List.reverse_cons,
    hold, List.append_nil, ← hbefore]

/-- The attributes of a tag that is written with this one. -/
def attributesOf (attr : Option (Text × Text)) : Attributes :=
  (attr.map fun a => (String.ofList a.1, a.2)).toList

/-- What the state of a lexer is after a start tag that the builder has taken. -/
def textState : Option Outcome → LexState
  | some (.rawText kind) => .raw kind
  | some .plainText => .plain
  | _ => .data

/-- Before its end a start tag is complete but for the attribute that is being read. -/
theorem Ready.foldl_attributeText (h : m.Ready .data b) (name : Text) {attr : Option (Text × Text)}
    (hattr : IsPlainAttribute attr) :
    ∃ tag state, (attributeText attr).foldl step (m.opened false name) = tag ∧ tag.step '>' = tag.emitTag
      ∧ tag.finishAttribute = { m.opened false name with state, attributes := attributesOf attr } := by
  cases attr with
  | none =>
      refine ⟨m.opened false name, .tagName, rfl, step_plain h.reference_eq h.before_eq (by decide), ?_⟩
      simp [finishAttribute, opened, h.attributeName_eq, attributesOf]
  | some a =>
      obtain ⟨key, value⟩ := a
      obtain ⟨hkey, hne, hvalue⟩ := hattr _ rfl
      refine ⟨_, .afterValue, foldl_attribute hkey hne hvalue rfl h.reference_eq h.before_eq
        h.attributeName_eq h.attributeValue_eq, step_plain h.reference_eq h.before_eq (by decide), ?_⟩
      simp [finishAttribute, opened, hne, attributesOf, h.attributeName_eq, h.attributeValue_eq]

theorem emitTag_start {tag : Lexer} (hfinish : m.finishAttribute = tag) (hend : tag.isEnd = false)
    {outcome : Option Outcome}
    (htake : (Build.take (.start ⟨String.ofList tag.tagName.reverse, tag.attributes, tag.isSelfClosing⟩)).run
      tag.builder = (outcome, b')) :
    m.emitTag = { tag with state := textState outcome, lastStart := some tag.tagName, builder := b' } := by
  simp only [emitTag, hfinish, hend, Bool.false_eq_true, if_false, htake]
  cases outcome with
  | none => rfl
  | some outcome => cases outcome <;> rfl

/-- A start tag is handed on as it was written, and the builder says how to go on. -/
theorem Ready.foldl_startText (h : m.Ready .data b) {name : Text} (hname : IsPlainName name) (hne : name ≠ [])
    {attr : Option (Text × Text)} (hattr : IsPlainAttribute attr)
    {outcome : Option Outcome}
    (htake : (Build.take (.start ⟨String.ofList name, attributesOf attr, false⟩)).run b = (outcome, b')) :
    ((startText name attr).foldl step m).Ready (textState outcome) b'
      ∧ ((startText name attr).foldl step m).lastStart = some name.reverse := by
  obtain ⟨tag, state, htag, hclose, hfinish⟩ := h.foldl_attributeText name hattr
  have hemit : tag.emitTag = { m.opened false name with
      attributes := attributesOf attr, state := textState outcome, lastStart := some name.reverse, builder := b' } := by
    refine emitTag_start hfinish rfl ?_
    rw [← h.builder_eq] at htake
    simpa [opened] using htake
  rw [startText, List.foldl_append, List.foldl_append, h.foldl_start hname hne, htag, List.foldl_cons, hclose, hemit]
  exact ⟨⟨rfl, rfl, h.reference_eq, h.before_eq, h.run_eq, h.attributeName_eq, h.attributeValue_eq⟩, rfl⟩

theorem Ready.opened (h : m.Ready .data b) (isEnd : Bool) (name : Text) : (m.opened isEnd name).Ready .tagName b :=
  ⟨rfl, h.builder_eq, h.reference_eq, h.before_eq, h.run_eq, h.attributeName_eq, h.attributeValue_eq⟩

/-- An end tag is handed on, and text goes on as it is outside of tags. -/
theorem Ready.emitTag_end {state : LexState} (h : m.Ready state b) (hend : m.isEnd = true)
    (hclosing : m.isSelfClosing = false) (hattributes : m.attributes = []) :
    m.emitTag.Ready .data ((Build.take (.stop ⟨String.ofList m.tagName.reverse, [], false⟩)).run b).2 := by
  have hemit : m.emitTag = { m with
      state := .data
      builder := ((Build.take (.stop ⟨String.ofList m.tagName.reverse, [], false⟩)).run m.builder).2 } := by
    simp [emitTag, finishAttribute, h.attributeName_eq, hend, hclosing, hattributes, emit]
  rw [hemit, h.builder_eq]
  exact ⟨rfl, rfl, h.reference_eq, h.before_eq, h.run_eq, h.attributeName_eq, h.attributeValue_eq⟩

theorem Ready.foldl_endText (h : m.Ready .data b) {name : Text} (hname : IsPlainName name) (hne : name ≠ []) :
    ((endText name).foldl step m).Ready .data ((Build.take (.stop ⟨String.ofList name, [], false⟩)).run b).2 := by
  have hclose : (m.opened true name).step '>' = (m.opened true name).emitTag :=
    step_plain h.reference_eq h.before_eq (by decide)
  have hemit := (h.opened true name).emitTag_end rfl rfl rfl
  rw [Lexer.opened, List.reverse_reverse] at hemit
  rw [endText, List.foldl_append, h.foldl_end hname hne, List.foldl_cons, hclose]
  exact hemit

/-! ### Text that only an end tag ends -/

/-- The builder after a piece of text. -/
def hand (b : Builder) (piece : Text) : Builder :=
  ((Build.take (.text .unsplit piece)).run b).2

/-- Text read but not handed on yet, as far as there is any. -/
def pending (m : Lexer) : List Text :=
  if m.run.isEmpty then [] else [m.run.reverse]

theorem flush_eq (m : Lexer) : m.flush = { m with run := [], builder := m.pending.foldl hand m.builder } := by
  rw [flush, pending]
  split_ifs with hrun
  · rw [List.isEmpty_iff] at hrun
    rw [List.foldl_nil, ← hrun]
  · rfl

theorem flatten_pending (m : Lexer) : m.pending.flatten = m.run.reverse := by
  rw [pending]
  split_ifs with hrun
  · rw [List.isEmpty_iff.1 hrun]
    rfl
  · exact List.append_nil _

theorem ne_nil_of_mem_pending {piece : Text} (h : piece ∈ m.pending) : piece ≠ [] := by
  rw [pending] at h
  split_ifs at h with hrun
  · cases h
  · rw [List.mem_singleton.1 h, ne_eq, List.reverse_eq_nil_iff, ← List.isEmpty_iff]
    exact hrun

theorem emitText_eq (m : Lexer) (piece : Text) :
    m.emitText piece = { m with run := [], builder := (m.pending ++ [piece]).foldl hand m.builder } := by
  rw [emitText, flush_eq, List.foldl_append]
  rfl

/-- The kinds of text in which nothing but `<` has a meaning. -/
def IsPlainKind (kind : RawKind) : Prop :=
  kind = .raw ∨ kind = .script

theorem rawStep_plain (hkind : IsPlainKind kind) (hopen : c ≠ '<') (hnull : c ≠ '\x00') :
    rawStep kind false m c = m.pushText false c := by
  rcases hkind with rfl | rfl <;> simp [rawStep, hopen, hnull, isEscaped]

theorem foldl_rawText {text : Text} (htext : IsRawText text) (hkind : IsPlainKind kind)
    (hstate : m.state = .raw kind) (href : m.reference = none) (hbefore : m.before = .nothing) :
    ∃ pieces : List Text, pieces.flatten = m.run.reverse ++ text ∧ (∀ piece ∈ pieces, piece ≠ []) ∧
      (text ++ ['<']).foldl step m
        = { m with state := .rawLess kind, run := [], builder := pieces.foldl hand m.builder } := by
  induction text generalizing m with
  | nil =>
      refine ⟨m.pending, ?_, fun _ => ne_nil_of_mem_pending, ?_⟩
      · rw [flatten_pending, List.append_nil]
      · have hless : rawStep kind false m '<' = m.flush.enter (.rawLess kind) := by
          rcases hkind with rfl | rfl <;> rfl
        rw [List.nil_append, List.foldl_cons, step_plain href hbefore (by decide)]
        simp only [plainStep, hstate, hless, flush_eq]
        rfl
  | cons c text ih =>
      obtain ⟨⟨hopen, hreturn, hnull⟩, htext⟩ := List.forall_mem_cons.1 htext
      have hstep : m.step c = m.pushText false c := by
        simp only [step_plain href hbefore hreturn, plainStep, hstate, rawStep_plain hkind hopen hnull]
      rw [List.cons_append, List.foldl_cons, hstep, pushText, Bool.false_or]
      split_ifs with hbreak
      · -- a line feed is a piece of its own
        obtain ⟨pieces, hflatten, hpieces, hread⟩ := ih htext (m := { m with
          run := [], builder := (m.pending ++ [[c]]).foldl hand m.builder }) hstate href hbefore
        refine ⟨m.pending ++ [[c]] ++ pieces, ?_, ?_, ?_⟩
        · simp only [List.flatten_append, flatten_pending, hflatten]
          simp
        · intro piece hpiece
          rcases List.mem_append.1 hpiece with hpiece | hpiece
          · rcases List.mem_append.1 hpiece with hpiece | hpiece
            · exact ne_nil_of_mem_pending hpiece
            · rw [List.mem_singleton.1 hpiece]
              exact List.cons_ne_nil c []
          · exact hpieces piece hpiece
        · rw [emitText_eq, hread, ← List.foldl_append]
      · obtain ⟨pieces, hflatten, hpieces, hread⟩ :=
          ih htext (m := { m with run := c :: m.run }) hstate href hbefore
        refine ⟨pieces, ?_, hpieces, hread⟩
        rw [hflatten, List.reverse_cons, List.append_assoc, List.singleton_append]

/-- A lexer that has read this much of the name of an end tag in such text. -/
def inEndName (m : Lexer) (kind : RawKind) (name : Text) : Lexer :=
  { m with
    state := .rawEndName kind, tagName := name.reverse, isEnd := true, isSelfClosing := false, attributes := []
    held := name.reverse }

theorem foldl_inEndName {seen name : Text} (hname : IsPlainName name) (href : m.reference = none)
    (hbefore : m.before = .nothing) :
    name.foldl step (m.inEndName kind seen) = m.inEndName kind (seen ++ name) := by
  induction name generalizing seen with
  | nil => rw [List.append_nil, List.foldl_nil]
  | cons c name ih =>
      obtain ⟨hc, hname⟩ := List.forall_mem_cons.1 hname
      have hstep : (m.inEndName kind seen).step c = m.inEndName kind (seen ++ [c]) := by
        rw [step_letter (m := m.inEndName kind seen) href hbefore hc]
        simp only [plainStep, inEndName, rawEndNameStep, isSpace_of_isLower hc, ne_of_isLower hc (d := '/') rfl,
          ne_of_isLower hc (d := '>') rfl, isAlpha_of_isLower hc, toLower_of_isLower hc, decide_false,
          Bool.and_false, Bool.false_eq_true, if_false, if_true, List.reverse_append, List.reverse_singleton,
          List.singleton_append]
      rw [List.foldl_cons, hstep, ih hname, List.append_assoc, List.singleton_append]

theorem Ready.step_rawSlash (h : m.Ready (.rawLess kind) b) (hkind : IsPlainKind kind) :
    m.step '/' = { m with state := .rawEndOpen kind, held := [] } := by
  have hopen : m.rawLessStep kind '/' = { m with state := .rawEndOpen kind, held := [] } := by
    rcases hkind with rfl | rfl <;> rfl
  simp only [step_plain h.reference_eq h.before_eq (by decide : '/' ≠ '\r'), plainStep, h.state_eq, hopen]

/-- An end tag is read as one if it names the element that the text is in. -/
theorem Ready.foldl_rawEnd (h : m.Ready (.rawLess kind) b) {name : Text} (hname : IsPlainName name)
    (hne : name ≠ []) (hkind : IsPlainKind kind) (hlast : m.lastStart = some name.reverse) :
    (('/' :: name ++ ['>']).foldl step m).Ready .data
      ((Build.take (.stop ⟨String.ofList name, [], false⟩)).run b).2 := by
  obtain ⟨c, rest, rfl⟩ := List.exists_cons_of_ne_nil hne
  obtain ⟨hc, hrest⟩ := List.forall_mem_cons.1 hname
  have hfirst : ({ m with state := .rawEndOpen kind, held := [] } : Lexer).step c = m.inEndName kind [c] := by
    rw [step_letter (m := { m with state := .rawEndOpen kind, held := [] }) h.reference_eq h.before_eq hc]
    simp only [plainStep, rawEndOpenStep, isAlpha_of_isLower hc, toLower_of_isLower hc, if_true]
    rfl
  generalize htag : m.inEndName kind (c :: rest) = tag
  have hready : ({ tag with held := [] } : Lexer).Ready (.rawEndName kind) b := by
    rw [← htag]
    exact ⟨rfl, h.builder_eq, h.reference_eq, h.before_eq, h.run_eq, h.attributeName_eq, h.attributeValue_eq⟩
  have hown : tag.isOwnEnd = true := by
    simp [← htag, isOwnEnd, inEndName, hlast]
  have hclose : tag.step '>' = ({ tag with held := [] } : Lexer).emitTag := by
    have hspace : isSpace '>' = false := rfl
    have hstate : tag.state = .rawEndName kind := hready.state_eq
    rw [step_plain (m := tag) hready.reference_eq hready.before_eq (by decide)]
    simp [plainStep, hstate, rawEndNameStep, hown, hspace]
  rw [List.cons_append, List.foldl_cons, h.step_rawSlash hkind, List.cons_append, List.foldl_cons, hfirst,
    List.foldl_append, foldl_inEndName hrest h.reference_eq h.before_eq, List.singleton_append, htag, List.foldl_cons,
    hclose]
  have hemit := hready.emitTag_end (by rw [← htag]; rfl) (by rw [← htag]; rfl) (by rw [← htag]; rfl)
  have hname : tag.tagName.reverse = c :: rest := by
    rw [← htag]
    exact List.reverse_reverse _
  rwa [hname] at hemit

/-- Text and the end tag after it are handed on in pieces that make up the text, and then the tag. -/
theorem Ready.foldl_rawElement (h : m.Ready (.raw kind) b) {text name : Text} (htext : IsRawText text)
    (hkind : IsPlainKind kind) (hname : IsPlainName name) (hne : name ≠ [])
    (hlast : m.lastStart = some name.reverse) :
    ∃ pieces : List Text, pieces.flatten = text ∧ (∀ piece ∈ pieces, piece ≠ []) ∧
      ((text ++ endText name).foldl step m).Ready .data
        ((Build.take (.stop ⟨String.ofList name, [], false⟩)).run (pieces.foldl hand b)).2 := by
  obtain ⟨pieces, hflatten, hpieces, hread⟩ := foldl_rawText htext hkind h.state_eq h.reference_eq h.before_eq
  rw [h.run_eq] at hflatten
  refine ⟨pieces, hflatten, hpieces, ?_⟩
  have hsplit : text ++ endText name = (text ++ ['<']) ++ ('/' :: name ++ ['>']) := by
    simp [endText]
  have hready : ((text ++ ['<']).foldl step m).Ready (.rawLess kind) (pieces.foldl hand b) := by
    rw [hread, h.builder_eq]
    exact ⟨rfl, rfl, h.reference_eq, h.before_eq, rfl, h.attributeName_eq, h.attributeValue_eq⟩
  rw [hsplit, List.foldl_append]
  exact hready.foldl_rawEnd hname hne hkind (by rw [hread]; exact hlast)

/-! ### The end of the input -/

theorem Ready.finish_eq (h : m.Ready .data b) : m.finish = ((Build.take .eof).run b).2 := by
  have hend : m.endReference = m := by
    rw [endReference, h.reference_eq]
  have hflush : m.flush = m := by
    rw [flush, h.run_eq]
    rfl
  have hstate : m.endState = m := by
    rw [endState, h.state_eq]
  rw [finish, hend, hflush, hstate, hflush, ← h.builder_eq]
  rfl

end Lexer

end LinkSurvey.Html
