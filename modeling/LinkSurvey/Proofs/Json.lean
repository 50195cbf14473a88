import LinkSurvey.Json.Reader
import LinkSurvey.Proofs.Url.Authority

/-!
A document is read as it is written. What a reader is given is the text of a value and whatever comes after it
in the document, and it stops where the value ends: a string ends with its quotes, an array and an object with
their brackets, and a number where something comes that no number goes on with. The steps that a reader may make
are counted, and a text is never shorter than the steps that it takes to read it.
-/

namespace LinkSurvey.Json

open Reader

/-! ### Numbers -/

/-- One or more digits. -/
structure IsDigits (cs : List Char) : Prop where
  ne_nil : cs ≠ []
  digits : ∀ c ∈ cs, c.isDigit = true

/-- The digits in front of the point: a zero, or digits of which the first is none. -/
inductive IsWhole : List Char → Prop where
  | zero : IsWhole ['0']
  | digits {cs : List Char} (h : IsDigits cs) (hzero : cs.head? ≠ some '0') : IsWhole cs

inductive IsFraction : List Char → Prop where
  | absent : IsFraction []
  | digits {cs : List Char} (h : IsDigits cs) : IsFraction ('.' :: cs)

/-- A power of ten is written with its sign. -/
inductive IsExponent : List Char → Prop where
  | absent : IsExponent []
  | digits {sign : Char} {cs : List Char} (hsign : sign = '+' ∨ sign = '-') (h : IsDigits cs) :
      IsExponent ('e' :: sign :: cs)

inductive IsMagnitude : List Char → Prop where
  | intro {whole fraction exponent : List Char} (hwhole : IsWhole whole) (hfraction : IsFraction fraction)
      (hexponent : IsExponent exponent) : IsMagnitude (whole ++ fraction ++ exponent)

inductive IsNumber : List Char → Prop where
  | positive {cs : List Char} (h : IsMagnitude cs) : IsNumber cs
  | negative {cs : List Char} (h : IsMagnitude cs) : IsNumber ('-' :: cs)

/-- A character that the text of a number may go on with. -/
def goesOn (c : Char) : Bool :=
  c.isDigit || c == '.' || c == 'e' || c == 'E'

theorem goesOn_eq_false_iff {c : Char} :
    goesOn c = false ↔ c.isDigit = false ∧ c ≠ '.' ∧ c ≠ 'e' ∧ c ≠ 'E' := by
  simp [goesOn, and_assoc]

/-- A text with which no number goes on. -/
def EndsNumber (rest : List Char) : Prop :=
  ∀ c ∈ rest.head?, goesOn c = false

theorem digits?_append {cs rest : List Char} (h : IsDigits cs) (hrest : ∀ c ∈ rest.head?, c.isDigit = false) :
    digits? (cs ++ rest) = some (cs, rest) := by
  have hspan := Url.span_append h.digits hrest
  rw [List.span_eq_takeWhile_dropWhile, Prod.mk.injEq] at hspan
  rw [digits?, hspan.1, hspan.2, if_neg (by simp [h.ne_nil])]

theorem IsWhole.exists_head {cs : List Char} (h : IsWhole cs) :
    ∃ c rest, cs = c :: rest ∧ c.isDigit = true := by
  cases h with
  | zero => exact ⟨'0', [], rfl, by decide⟩
  | digits h _ =>
      obtain ⟨c, rest, rfl⟩ := List.exists_cons_of_ne_nil h.ne_nil
      exact ⟨c, rest, rfl, h.digits c List.mem_cons_self⟩

theorem wholePart?_append {cs rest : List Char} (h : IsWhole cs) (hrest : ∀ c ∈ rest.head?, c.isDigit = false) :
    wholePart? (cs ++ rest) = some (cs, rest) := by
  cases h with
  | zero => rfl
  | digits h hzero =>
      have hhead : ∀ cs', cs ++ rest = '0' :: cs' → False := by
        intro cs' heq
        obtain ⟨c, tail, rfl⟩ := List.exists_cons_of_ne_nil h.ne_nil
        rw [List.cons_append, List.cons.injEq] at heq
        exact hzero (congrArg some heq.1)
      rw [wholePart?.eq_2 _ hhead, digits?_append h hrest]

theorem fraction?_append {cs rest : List Char} (h : IsFraction cs)
    (hrest : ∀ c ∈ rest.head?, c.isDigit = false ∧ c ≠ '.') : fraction? (cs ++ rest) = some (cs, rest) := by
  cases h with
  | absent =>
      rw [List.nil_append, fraction?.eq_2]
      rintro cs rfl
      exact (hrest '.' rfl).2 rfl
  | digits h =>
      rw [List.cons_append, fraction?, digits?_append h fun c hc => (hrest c hc).1]
      rfl

theorem exponent?_append {cs rest : List Char} (h : IsExponent cs) (hrest : EndsNumber rest) :
    exponent? (cs ++ rest) = some (cs, rest) := by
  have hends : ∀ c ∈ rest.head?, c.isDigit = false ∧ c ≠ '.' ∧ c ≠ 'e' ∧ c ≠ 'E' :=
    fun c hc => goesOn_eq_false_iff.1 (hrest c hc)
  cases h with
  | absent =>
      cases rest with
      | nil => rfl
      | cons c rest =>
          obtain ⟨-, -, hlower, hupper⟩ := hends c rfl
          simp [exponent?, hlower, hupper]
  | digits hsign h =>
      rcases hsign with rfl | rfl <;>
        simp [exponent?, digits?_append h fun c hc => (hends c hc).1]

theorem magnitude?_append {cs rest : List Char} (h : IsMagnitude cs) (hrest : EndsNumber rest) :
    magnitude? (cs ++ rest) = some (cs, rest) := by
  obtain @⟨whole, fraction, exponent, hwhole, hfraction, hexponent⟩ := h
  have hends : ∀ c ∈ rest.head?, c.isDigit = false ∧ c ≠ '.' := by
    intro c hc
    obtain ⟨hdigit, hpoint, -⟩ := goesOn_eq_false_iff.1 (hrest c hc)
    exact ⟨hdigit, hpoint⟩
  have hpower : ∀ c ∈ (exponent ++ rest).head?, c.isDigit = false ∧ c ≠ '.' := by
    intro c hc
    cases hexponent with
    | absent => exact hends c hc
    | digits =>
        rw [← Option.some.inj hc]
        decide
  have hpoint : ∀ c ∈ (fraction ++ (exponent ++ rest)).head?, c.isDigit = false := by
    intro c hc
    cases hfraction with
    | absent => exact (hpower c hc).1
    | digits =>
        rw [← Option.some.inj hc]
        decide
  rw [List.append_assoc, List.append_assoc, magnitude?, wholePart?_append hwhole hpoint]
  simp only [Option.bind_eq_bind, Option.bind_some, fraction?_append hfraction hpower,
    exponent?_append hexponent hrest, Option.pure_def]

theorem IsMagnitude.exists_head {cs : List Char} (h : IsMagnitude cs) :
    ∃ c rest, cs = c :: rest ∧ c.isDigit = true := by
  obtain @⟨whole, fraction, exponent, hwhole, -, -⟩ := h
  obtain ⟨c, rest, rfl, hc⟩ := hwhole.exists_head
  exact ⟨c, rest ++ fraction ++ exponent, rfl, hc⟩

theorem number?_append {cs rest : List Char} (h : IsNumber cs) (hrest : EndsNumber rest) :
    number? (cs ++ rest) = some (cs, rest) := by
  cases h with
  | positive h =>
      obtain ⟨c, tail, hhead, hc⟩ := h.exists_head
      have hsign : ∀ cs', cs ++ rest = '-' :: cs' → False := by
        intro cs' heq
        rw [hhead, List.cons_append, List.cons.injEq] at heq
        rw [heq.1] at hc
        exact absurd hc (by decide)
      rw [number?.eq_2 _ hsign, magnitude?_append h hrest]
  | negative h =>
      rw [List.cons_append, number?, magnitude?_append h hrest]
      rfl

/-! ### Strings -/

theorem hexValue?_hexDigit {n : Nat} (h : n < 16) : hexValue? (hexDigit n) = some n := by
  have hall : ∀ n : Fin 16, hexValue? (hexDigit n.val) = some n.val := by decide
  exact hall ⟨n, h⟩

/-- A character is read from its escape, which says where it ends. -/
theorem char?_escape (c : Char) (rest : List Char) : char? (escape c ++ rest) = some (c, rest) := by
  rw [escape]
  split_ifs with hquote hbackslash hback htab hline hpage hreturn hcontrol
  · rw [hquote]
    rfl
  · rw [hbackslash]
    rfl
  · rw [hback]
    rfl
  · rw [htab]
    rfl
  · rw [hline]
    rfl
  · rw [hpage]
    rfl
  · rw [hreturn]
    rfl
  · have hzero : hexValue? '0' = some 0 := by decide
    have hhigh := hexValue?_hexDigit (n := c.toNat / 16) (by omega)
    have hlow := hexValue?_hexDigit (n := c.toNat % 16) (by omega)
    have hunit : ((0 * 16 + 0) * 16 + c.toNat / 16) * 16 + c.toNat % 16 = c.toNat := by omega
    have hsmall : c.toNat < 0xD800 ∨ 0xE000 ≤ c.toNat := by omega
    simp only [List.cons_append, List.nil_append, char?, if_true, codedChar?, codeUnit?, hzero, hhigh, hlow,
      Option.bind_eq_bind, Option.bind_some, Option.pure_def, hunit, if_pos hsmall, Char.ofNat_toNat]
  · have hplain : ¬(c = '"' ∨ c.toNat < 32) := by simp [hquote, hcontrol]
    simp only [List.singleton_append, char?, if_neg hbackslash, if_neg hplain]

theorem escape_head? (c : Char) : (escape c).head? ≠ some '"' := by
  rw [escape]
  split_ifs with hquote
  all_goals simp_all

theorem one_le_length_escape (c : Char) : 1 ≤ (escape c).length := by
  rw [escape]
  split_ifs <;> exact Nat.succ_le_succ (Nat.zero_le _)

/-- A string is read up to its closing quotes if there is a step for each of its characters. -/
theorem stringRest?_append {s : List Char} {n : Nat} (h : s.length ≤ n) (rest : List Char) :
    stringRest? n (s.flatMap escape ++ '"' :: rest) = some (s, rest) := by
  induction s generalizing n with
  | nil => rw [List.flatMap_nil, List.nil_append, stringRest?]
  | cons c s ih =>
      obtain ⟨n, rfl⟩ := Nat.exists_eq_add_of_lt h
      have hopen : ∀ cs', escape c ++ (s.flatMap escape ++ '"' :: rest) = '"' :: cs' → False := by
        intro cs' heq
        obtain ⟨d, tail, htail⟩ := List.exists_cons_of_length_pos (one_le_length_escape c)
        have hhead := escape_head? c
        rw [htail, List.cons_append, List.cons.injEq] at heq
        rw [htail, heq.1] at hhead
        exact hhead rfl
      rw [List.flatMap_cons, List.append_assoc, stringRest?.eq_3 _ _ hopen, char?_escape]
      simp only [Option.bind_eq_bind, Option.bind_some, ih (Nat.le_add_right _ _), Option.pure_def]

theorem length_le_length_escaped (s : List Char) : s.length ≤ (s.flatMap escape).length := by
  induction s with
  | nil => exact Nat.le_refl 0
  | cons c s ih =>
      have hc := one_le_length_escape c
      rw [List.flatMap_cons, List.length_append, List.length_cons]
      omega

theorem string?_quoted (s rest : List Char) : Reader.string? (quoted s ++ rest) = some (s, rest) := by
  have hlength := length_le_length_escaped s
  have hsteps : s.length ≤ (s.flatMap escape ++ '"' :: rest).length := by
    rw [List.length_append]
    omega
  have hquoted : quoted s ++ rest = '"' :: (s.flatMap escape ++ '"' :: rest) := by simp [quoted]
  rw [hquoted, Reader.string?, stringRest?_append hsteps]

/-! ### Gaps -/

theorem skipGap_cons {c : Char} (h : isGap c = false) (cs : List Char) : skipGap (c :: cs) = c :: cs :=
  List.dropWhile_cons_of_neg (by simp [h])

theorem skipGap_newLine (level : Nat) (cs : List Char) : skipGap (newLine level ++ cs) = skipGap cs := by
  have hblanks : ∀ n, (List.replicate n ' ' ++ cs).dropWhile isGap = cs.dropWhile isGap := by
    intro n
    refine List.dropWhile_append_of_pos fun c hc => ?_
    rw [List.eq_of_mem_replicate hc]
    rfl
  have hbreak : isGap '\n' = true := rfl
  rw [newLine, skipGap, List.cons_append, List.dropWhile_cons_of_pos hbreak, hblanks, skipGap]

theorem skipGap_quoted (s rest : List Char) : skipGap (quoted s ++ rest) = quoted s ++ rest :=
  skipGap_cons rfl _

/-- The name of a member is read from after a comma or a bracket on. -/
theorem key?_quoted {cs rest : List Char} {key : List Char} (h : skipGap cs = quoted key ++ ':' :: ' ' :: rest) :
    key? cs = some (key, skipGap rest) := by
  have hcolon : skipGap (':' :: ' ' :: rest) = ':' :: ' ' :: rest := skipGap_cons rfl _
  rw [key?, h, string?_quoted]
  simp only [Option.bind_eq_bind, Option.bind_some, hcolon, Option.pure_def]
  rfl

/-! ### Values -/

/-- A document whose numbers are written as numbers are. -/
inductive IsProper : Json → Prop where
  | null : IsProper .null
  | bool (value : Bool) : IsProper (.bool value)
  | number {text : List Char} (h : IsNumber text) : IsProper (.number text)
  | string (value : List Char) : IsProper (.string value)
  | array {items : List Json} (h : ∀ item ∈ items, IsProper item) : IsProper (.array items)
  | object {members : List (List Char × Json)} (h : ∀ member ∈ members, IsProper member.2) :
      IsProper (.object members)

/-- A character that may stand where a value starts. -/
def isStart (c : Char) : Bool :=
  !isGap c && c != ']' && c != '\x7d'

theorem isStart_of_isDigit {c : Char} (h : c.isDigit = true) : isStart c = true := by
  have hgap : ∀ d ∈ [' ', '\t', '\n', '\r', ']', '\x7d'], c ≠ d := by
    rintro d hd rfl
    have hall : [' ', '\t', '\n', '\r', ']', '\x7d'].all (fun d => !d.isDigit) = true := by decide
    have hnone := List.all_eq_true.1 hall c hd
    rw [h] at hnone
    exact absurd hnone (by decide)
  simp only [List.forall_mem_cons] at hgap
  simp [isStart, isGap, hgap]

theorem IsNumber.exists_head {cs : List Char} (h : IsNumber cs) :
    ∃ c rest, cs = c :: rest ∧ (c.isDigit = true ∨ c = '-') := by
  cases h with
  | positive h =>
      obtain ⟨c, rest, hcs, hc⟩ := h.exists_head
      exact ⟨c, rest, hcs, Or.inl hc⟩
  | negative h => exact ⟨'-', _, rfl, Or.inr rfl⟩

theorem IsProper.exists_head {j : Json} (h : j.IsProper) (level : Nat) :
    ∃ c rest, j.write level = c :: rest ∧ isStart c = true := by
  cases h with
  | null => exact ⟨_, _, by rw [write], by decide⟩
  | bool value => cases value <;> exact ⟨_, _, by rw [write], by decide⟩
  | number h =>
      obtain ⟨c, rest, hcs, hc⟩ := h.exists_head
      refine ⟨c, rest, by rw [write, hcs], ?_⟩
      rcases hc with hc | rfl
      · exact isStart_of_isDigit hc
      · decide
  | string value => exact ⟨_, _, by rw [write]; rfl, by decide⟩
  | @array items _ =>
      cases items with
      | nil => exact ⟨'[', _, by rw [write], by decide⟩
      | cons item items => exact ⟨'[', _, by rw [write]; rfl, by decide⟩
  | @object members _ =>
      cases members with
      | nil => exact ⟨'\x7b', _, by rw [write], by decide⟩
      | cons member members => exact ⟨'\x7b', _, by rw [write]; rfl, by decide⟩

theorem IsProper.skipGap_write {j : Json} (h : j.IsProper) (level : Nat) (rest : List Char) :
    skipGap (j.write level ++ rest) = j.write level ++ rest := by
  obtain ⟨c, tail, hwrite, hc⟩ := h.exists_head level
  have hgap : isGap c = false := by
    simp only [isStart, Bool.and_eq_true, Bool.not_eq_true'] at hc
    exact hc.1.1
  rw [hwrite]
  exact skipGap_cons hgap _

/-- A value that is read from its text, whatever comes after it, in no more steps than the text is long. -/
def Reads (j : Json) : Prop :=
  ∀ level n rest, (j.write level).length ≤ n → EndsNumber rest →
    value? n (j.write level ++ rest) = some (j, rest)

theorem endsNumber_cons {c : Char} (h : goesOn c = false) (cs : List Char) : EndsNumber (c :: cs) := by
  intro d hd
  rw [← Option.some.inj hd]
  exact h

/-! #### Scalars -/

/-- A value that does not start with a bracket has no parts. -/
theorem reads_of_scalar {j : Json} {c : Char} {cs : List Char} (hwrite : ∀ level, j.write level = c :: cs)
    (hc : c ≠ '[' ∧ c ≠ '\x7b') (hread : ∀ rest, EndsNumber rest → scalar? (c :: cs ++ rest) = some (j, rest)) :
    Reads j := by
  intro level n rest hn hrest
  rw [hwrite] at hn ⊢
  obtain ⟨n, rfl⟩ := Nat.exists_eq_succ_of_ne_zero (Nat.ne_of_gt (Nat.lt_of_lt_of_le (Nat.succ_pos _) hn))
  rw [value?.eq_4, hread rest hrest]
  · intro cs' h
    exact hc.1 (List.cons.inj h).1
  · intro cs' h
    exact hc.2 (List.cons.inj h).1

theorem reads_null : Reads .null :=
  reads_of_scalar (fun _ => by rw [write]) (by decide) fun _ _ => rfl

theorem reads_bool (value : Bool) : Reads (.bool value) := by
  cases value with
  | true => exact reads_of_scalar (fun _ => by rw [write]) (by decide) fun _ _ => rfl
  | false => exact reads_of_scalar (fun _ => by rw [write]) (by decide) fun _ _ => rfl

theorem reads_string (value : List Char) : Reads (.string value) := by
  have hquoted : quoted value = '"' :: (value.flatMap escape ++ ['"']) := rfl
  refine reads_of_scalar (fun _ => by rw [write, hquoted]) (by decide) fun rest _ => ?_
  have hread := string?_quoted value rest
  rw [hquoted, List.cons_append] at hread
  rw [List.cons_append, scalar?, hread]
  rfl

theorem word?_of_number {c : Char} (hc : c.isDigit = true ∨ c = '-') (cs : List Char) :
    word? (c :: cs) = none := by
  have hletter : ∀ d ∈ ['n', 't', 'f'], d ≠ c := by
    rintro d hd rfl
    have hall : ['n', 't', 'f'].all (fun d => !(d.isDigit || d == '-')) = true := by decide
    have hnone := List.all_eq_true.1 hall d hd
    rw [Bool.not_eq_true', Bool.or_eq_false_iff, beq_eq_false_iff_ne] at hnone
    rcases hc with hc | hc
    · rw [hc] at hnone
      exact absurd hnone.1 (by decide)
    · exact hnone.2 hc
  simp only [List.forall_mem_cons] at hletter
  simp [word?, hletter]

theorem reads_number {text : List Char} (h : IsNumber text) : Reads (.number text) := by
  obtain ⟨c, tail, rfl, hc⟩ := h.exists_head
  have hbracket : c ≠ '[' ∧ c ≠ '\x7b' ∧ c ≠ '"' := by
    refine ⟨?_, ?_, ?_⟩ <;> rintro rfl <;> revert hc <;> decide
  refine reads_of_scalar (fun _ => by rw [write]) ⟨hbracket.1, hbracket.2.1⟩ fun rest hrest => ?_
  have hread := number?_append h hrest
  rw [List.cons_append] at hread
  rw [List.cons_append, scalar?.eq_2, word?_of_number hc, hread]
  · rfl
  · intro cs' heq
    exact hbracket.2.2 (List.cons.inj heq).1

/-! #### Arrays and objects -/

/-- What comes after an item is a comma or the start of a line. -/
theorem endsNumber_items (level outer : Nat) (items : List Json) (rest : List Char) :
    EndsNumber (writeItems level items ++ (newLine outer ++ rest)) := by
  cases items with
  | nil =>
      rw [writeItems, List.nil_append, newLine, List.cons_append]
      exact endsNumber_cons rfl _
  | cons item items =>
      rw [writeItems]
      exact endsNumber_cons rfl _

theorem endsNumber_members (level outer : Nat) (members : List (List Char × Json)) (rest : List Char) :
    EndsNumber (writeMembers level members ++ (newLine outer ++ rest)) := by
  cases members with
  | nil =>
      rw [writeMembers, List.nil_append, newLine, List.cons_append]
      exact endsNumber_cons rfl _
  | cons member members =>
      obtain ⟨key, value⟩ := member
      rw [writeMembers]
      exact endsNumber_cons rfl _

theorem items?_writeItems {items : List Json} (hproper : ∀ item ∈ items, IsProper item)
    (hreads : ∀ item ∈ items, Reads item) (level outer : Nat) {n : Nat} (hn : (writeItems level items).length ≤ n)
    (rest : List Char) :
    items? n (skipGap (writeItems level items ++ (newLine outer ++ ']' :: rest))) = some (items, rest) := by
  induction items generalizing n with
  | nil =>
      rw [writeItems, List.nil_append, skipGap_newLine, skipGap_cons rfl, items?]
  | cons item items ih =>
      obtain ⟨hitem, hitems⟩ := List.forall_mem_cons.1 hproper
      obtain ⟨hread, hreads⟩ := List.forall_mem_cons.1 hreads
      simp only [writeItems, List.cons_append, List.nil_append, List.append_assoc, List.length_cons,
        List.length_append] at hn ⊢
      obtain ⟨n, rfl⟩ := Nat.exists_eq_succ_of_ne_zero (show n ≠ 0 by omega)
      rw [skipGap_cons rfl, items?, skipGap_newLine, hitem.skipGap_write,
        hread level n _ (by omega) (endsNumber_items level outer items _)]
      simp only [Option.bind_eq_bind, Option.bind_some, ih hitems hreads (show _ ≤ n by omega), Option.pure_def]

theorem members?_writeMembers {members : List (List Char × Json)} (hproper : ∀ member ∈ members, IsProper member.2)
    (hreads : ∀ member ∈ members, Reads member.2) (level outer : Nat) {n : Nat}
    (hn : (writeMembers level members).length ≤ n) (rest : List Char) :
    members? n (skipGap (writeMembers level members ++ (newLine outer ++ '\x7d' :: rest)))
      = some (members, rest) := by
  induction members generalizing n with
  | nil =>
      rw [writeMembers, List.nil_append, skipGap_newLine, skipGap_cons rfl, members?]
  | cons member members ih =>
      obtain ⟨key, value⟩ := member
      obtain ⟨hvalue, hmembers⟩ : IsProper value ∧ ∀ member ∈ members, IsProper member.2 :=
        List.forall_mem_cons.1 hproper
      obtain ⟨hread, hreads⟩ : Reads value ∧ ∀ member ∈ members, Reads member.2 :=
        List.forall_mem_cons.1 hreads
      simp only [writeMembers, List.cons_append, List.nil_append, List.append_assoc, List.length_cons,
        List.length_append] at hn ⊢
      obtain ⟨n, rfl⟩ := Nat.exists_eq_succ_of_ne_zero (show n ≠ 0 by omega)
      have hkey : skipGap (newLine level ++ (quoted key ++ ':' :: ' ' :: (write level value
          ++ (writeMembers level members ++ (newLine outer ++ '\x7d' :: rest)))))
          = quoted key ++ ':' :: ' ' :: (write level value
          ++ (writeMembers level members ++ (newLine outer ++ '\x7d' :: rest))) := by
        rw [skipGap_newLine, skipGap_quoted]
      rw [skipGap_cons rfl, members?, key?_quoted hkey]
      simp only [Option.bind_eq_bind, Option.bind_some, hvalue.skipGap_write,
        hread level n _ (show _ ≤ n by omega) (endsNumber_members level outer members _),
        ih hmembers hreads (show _ ≤ n by omega), Option.pure_def]

theorem reads_array {items : List Json} (hproper : ∀ item ∈ items, IsProper item)
    (hreads : ∀ item ∈ items, Reads item) : Reads (.array items) := by
  intro level n rest hn _
  cases items with
  | nil =>
      rw [write] at hn ⊢
      obtain ⟨n, rfl⟩ := Nat.exists_eq_succ_of_ne_zero (Nat.ne_of_gt (Nat.lt_of_lt_of_le (by decide) hn))
      rfl
  | cons item items =>
      obtain ⟨hitem, hitems⟩ := List.forall_mem_cons.1 hproper
      obtain ⟨hread, hreads⟩ := List.forall_mem_cons.1 hreads
      simp only [write, List.cons_append, List.nil_append, List.append_assoc, List.length_cons,
        List.length_append] at hn ⊢
      obtain ⟨n, rfl⟩ := Nat.exists_eq_succ_of_ne_zero (show n ≠ 0 by omega)
      obtain ⟨c, tail, hwrite, hc⟩ := hitem.exists_head (level + 1)
      have hvalue := hread (level + 1) n _ (by omega) (endsNumber_items (level + 1) level items (']' :: rest))
      have hrest := items?_writeItems hitems hreads (level + 1) level (show _ ≤ n by omega) rest
      have hopen : c ≠ ']' := by
        rintro rfl
        exact absurd hc (by decide)
      rw [value?, skipGap_newLine, hitem.skipGap_write]
      split
      · rename_i cs heq
        rw [hwrite, List.cons_append, List.cons.injEq] at heq
        exact absurd heq.1 hopen
      · simp only [Option.bind_eq_bind, hvalue, Option.bind_some, hrest, Option.pure_def]

theorem reads_object {members : List (List Char × Json)} (hproper : ∀ member ∈ members, IsProper member.2)
    (hreads : ∀ member ∈ members, Reads member.2) : Reads (.object members) := by
  intro level n rest hn _
  cases members with
  | nil =>
      rw [write] at hn ⊢
      obtain ⟨n, rfl⟩ := Nat.exists_eq_succ_of_ne_zero (Nat.ne_of_gt (Nat.lt_of_lt_of_le (by decide) hn))
      rfl
  | cons member members =>
      obtain ⟨key, value⟩ := member
      obtain ⟨hvalue, hmembers⟩ : IsProper value ∧ ∀ member ∈ members, IsProper member.2 :=
        List.forall_mem_cons.1 hproper
      obtain ⟨hread, hreads⟩ : Reads value ∧ ∀ member ∈ members, Reads member.2 :=
        List.forall_mem_cons.1 hreads
      simp only [write, List.cons_append, List.nil_append, List.append_assoc, List.length_cons,
        List.length_append] at hn ⊢
      obtain ⟨n, rfl⟩ := Nat.exists_eq_succ_of_ne_zero (show n ≠ 0 by omega)
      have hfirst := hread (level + 1) n _ (by omega) (endsNumber_members (level + 1) level members ('\x7d' :: rest))
      have hrest := members?_writeMembers hmembers hreads (level + 1) level (show _ ≤ n by omega) rest
      rw [value?, skipGap_newLine, skipGap_quoted]
      split
      · rename_i cs heq
        rw [quoted, List.append_assoc, List.append_assoc, List.singleton_append, List.cons.injEq] at heq
        exact absurd heq.1 (by decide)
      · rw [key?_quoted (skipGap_quoted _ _)]
        simp only [Option.bind_eq_bind, hvalue.skipGap_write, hfirst, Option.bind_some, hrest, Option.pure_def]

theorem IsProper.reads {j : Json} (h : j.IsProper) : Reads j := by
  induction h with
  | null => exact reads_null
  | bool value => exact reads_bool value
  | number h => exact reads_number h
  | string value => exact reads_string value
  | array h ih => exact reads_array h ih
  | object h ih => exact reads_object h ih

/-- The text of a document is that of one document. -/
theorem IsProper.ofText?_text {j : Json} (h : j.IsProper) : ofText? j.text = some j := by
  have hstart := h.skipGap_write 0 []
  have hread := h.reads 0 j.text.length [] (Nat.le_refl _) (fun c hc => by cases hc)
  rw [List.append_nil] at hstart hread
  rw [ofText?, text, hstart]
  simp only [text] at hread
  simp only [Option.bind_eq_bind, hread, Option.bind_some]
  rfl

end LinkSurvey.Json
