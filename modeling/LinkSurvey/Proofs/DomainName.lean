import LinkSurvey.DomainName.Ascii
import Mathlib.Tactic.SplitIfs

/-!
Names that are their own ASCII form. A name of lower-case ASCII characters that a domain name may hold is
mapped to itself, is in normal form, and its labels read as they are written, unless one of them claims to
be written in digits. Dotted numbers are such names.
-/

namespace LinkSurvey.DomainName

open Text

/-! ### Cutting at a separator -/

theorem splitOn_ne_nil (separator : Char) (cs : List Char) : splitOn separator cs ≠ [] := by
  cases cs with
  | nil => simp [splitOn]
  | cons c cs =>
      rw [splitOn]
      split_ifs
      · simp
      · split <;> simp

theorem splitOn_cons_of_ne {separator c : Char} (h : c ≠ separator) {cs part : List Char}
    {parts : List (List Char)} (hparts : splitOn separator cs = part :: parts) :
    splitOn separator (c :: cs) = (c :: part) :: parts := by
  rw [splitOn, if_neg h, hparts]

theorem join_splitOn (separator : Char) (cs : List Char) : join separator (splitOn separator cs) = cs := by
  induction cs with
  | nil => rfl
  | cons c cs ih =>
      obtain ⟨part, parts, hparts⟩ := List.exists_cons_of_ne_nil (splitOn_ne_nil separator cs)
      rw [hparts] at ih
      by_cases hc : c = separator
      · rw [splitOn, if_pos hc, hparts, join, ih, hc, List.nil_append]
        simp
      · rw [splitOn_cons_of_ne hc hparts]
        cases parts with
        | nil =>
            rw [join] at ih ⊢
            rw [ih]
        | cons next parts =>
            rw [join] at ih ⊢
            · rw [List.cons_append, ih]
            · simp
            · simp

/-- A text without the separator, followed by one, is the first part. -/
theorem splitOn_append {separator : Char} {part : List Char} (h : separator ∉ part) (rest : List Char) :
    splitOn separator (part ++ separator :: rest) = part :: splitOn separator rest := by
  induction part with
  | nil => rw [List.nil_append, splitOn, if_pos rfl]
  | cons c part ih =>
      rw [List.mem_cons, not_or] at h
      exact splitOn_cons_of_ne (Ne.symm h.1) (ih h.2)

theorem splitOn_of_not_mem {separator : Char} {part : List Char} (h : separator ∉ part) :
    splitOn separator part = [part] := by
  induction part with
  | nil => rfl
  | cons c part ih =>
      rw [List.mem_cons, not_or] at h
      exact splitOn_cons_of_ne (Ne.symm h.1) (ih h.2)

theorem splitOn_join {separator : Char} {parts : List (List Char)} (hne : parts ≠ [])
    (h : ∀ part ∈ parts, separator ∉ part) : splitOn separator (join separator parts) = parts := by
  induction parts with
  | nil => exact absurd rfl hne
  | cons part parts ih =>
      obtain ⟨hpart, hparts⟩ := List.forall_mem_cons.1 h
      cases parts with
      | nil => exact splitOn_of_not_mem hpart
      | cons next parts =>
          rw [join, splitOn_append hpart, ih (by simp) hparts]
          simp

theorem mem_join {separator c : Char} {parts : List (List Char)} (h : c ∈ join separator parts) :
    c = separator ∨ ∃ part ∈ parts, c ∈ part := by
  induction parts with
  | nil => exact absurd h List.not_mem_nil
  | cons part parts ih =>
      cases parts with
      | nil => exact Or.inr ⟨part, List.mem_cons_self, h⟩
      | cons next parts =>
          rw [join, List.mem_append, List.mem_cons] at h
          · rcases h with h | h | h
            · exact Or.inr ⟨part, List.mem_cons_self, h⟩
            · exact Or.inl h
            · rcases ih h with h | ⟨other, hother, hc⟩
              · exact Or.inl h
              · exact Or.inr ⟨other, List.mem_cons_of_mem part hother, hc⟩
          · simp

theorem mem_of_mem_splitOn {separator c : Char} {cs part : List Char} (hpart : part ∈ splitOn separator cs)
    (hc : c ∈ part) : c ∈ cs := by
  induction cs generalizing part with
  | nil =>
      rw [splitOn, List.mem_singleton] at hpart
      rwa [hpart] at hc
  | cons d cs ih =>
      obtain ⟨first, parts, hparts⟩ := List.exists_cons_of_ne_nil (splitOn_ne_nil separator cs)
      rw [hparts] at ih
      by_cases hd : d = separator
      · rw [splitOn, if_pos hd, hparts] at hpart
        rcases List.mem_cons.1 hpart with rfl | hpart
        · cases hc
        · exact List.mem_cons_of_mem d (ih hpart hc)
      · rw [splitOn_cons_of_ne hd hparts] at hpart
        rcases List.mem_cons.1 hpart with rfl | hpart
        · rcases List.mem_cons.1 hc with rfl | hc
          · exact List.mem_cons_self
          · exact List.mem_cons_of_mem d (ih List.mem_cons_self hc)
        · exact List.mem_cons_of_mem d (ih (List.mem_cons_of_mem first hpart) hc)

/-! ### Text in normal form -/

/-- A character that composition keeps, whatever stands around it. -/
structure IsInert (c : Char) : Prop where
  decompose : Canonical.decompose c = [c]
  starter : Canonical.combiningClass c = 0
  composePair : ∀ s, Canonical.composePair s c = none

theorem isInert_of_ascii {c : Char} (h : c.toNat < 128) : IsInert c where
  decompose := if_pos (Nat.lt_of_lt_of_le h (by decide))
  starter := if_pos (Nat.lt_of_lt_of_le h (by decide))
  composePair := by
    intro s
    have hlow : c.toNat < 0x300 := by omega
    simp only [Canonical.composePair, if_pos hlow]

theorem orderMarks_of_isInert {cs : List Char} (h : ∀ c ∈ cs, IsInert c) : Canonical.orderMarks [] cs = cs := by
  have hnone : Canonical.orderMarks.sorted [] = [] := by simp [Canonical.orderMarks.sorted]
  induction cs with
  | nil => exact hnone
  | cons c cs ih =>
      obtain ⟨hc, hcs⟩ := List.forall_mem_cons.1 h
      rw [Canonical.orderMarks, if_pos hc.starter, hnone, ih hcs, List.nil_append]

theorem composeFrom_of_isInert (s : Char) {cs : List Char} (h : ∀ c ∈ cs, IsInert c) :
    Canonical.composeFrom (some s) [] 0 cs = s :: cs := by
  induction cs generalizing s with
  | nil => rfl
  | cons c cs ih =>
      obtain ⟨hc, hcs⟩ := List.forall_mem_cons.1 h
      simp only [Canonical.composeFrom, hc.starter, hc.composePair s, ih c hcs, ite_self, List.reverse_nil, if_true]
      rfl

theorem compose_of_isInert {cs : List Char} (h : ∀ c ∈ cs, IsInert c) : Canonical.compose cs = cs := by
  have hapart : cs.flatMap Canonical.decompose = cs := by
    induction cs with
    | nil => rfl
    | cons c cs ih =>
        obtain ⟨hc, hcs⟩ := List.forall_mem_cons.1 h
        rw [List.flatMap_cons, hc.decompose, ih hcs, List.singleton_append]
  rw [Canonical.compose, hapart, orderMarks_of_isInert h]
  cases cs with
  | nil => rfl
  | cons c cs =>
      obtain ⟨hc, hcs⟩ := List.forall_mem_cons.1 h
      simp only [Canonical.composeFrom, hc.starter, if_true]
      exact composeFrom_of_isInert c hcs

theorem compose_of_ascii {cs : List Char} (h : ∀ c ∈ cs, c.toNat < 128) : Canonical.compose cs = cs :=
  compose_of_isInert fun c hc => isInert_of_ascii (h c hc)

/-! ### Plain names -/

/-- Characters an ASCII form is made of. -/
def isNameChar (c : Char) : Bool :=
  c.toNat < 128 && !isForbidden c

theorem isNameChar_iff (c : Char) : isNameChar c = true ↔ c.toNat < 128 ∧ isForbidden c = false := by
  simp [isNameChar]

/-- Characters of a name that mapping keeps. -/
def isPlainChar (c : Char) : Bool :=
  isNameChar c && !c.isUpper

theorem isPlainChar_iff (c : Char) : isPlainChar c = true ↔ isNameChar c = true ∧ c.isUpper = false := by
  simp [isPlainChar]

theorem toNat_lt_of_isNameChar {c : Char} (h : isNameChar c = true) : c.toNat < 128 :=
  ((isNameChar_iff c).1 h).1

theorem toNat_lt_of_isPlainChar {c : Char} (h : isPlainChar c = true) : c.toNat < 128 :=
  toNat_lt_of_isNameChar ((isPlainChar_iff c).1 h).1

theorem mapped?_of_plainChars {cs : List Char} (h : ∀ c ∈ cs, isPlainChar c = true) :
    mapped? cs = some cs := by
  induction cs with
  | nil => rfl
  | cons c cs ih =>
      obtain ⟨hc, hcs⟩ := List.forall_mem_cons.1 h
      have hstatus : status c = .valid := by
        rw [status, if_pos (toNat_lt_of_isPlainChar hc), ((isPlainChar_iff c).1 hc).2]
        rfl
      rw [mapped?, hstatus, ih hcs]
      rfl

theorem isAscii_iff {cs : List Char} : isAscii cs = true ↔ ∀ c ∈ cs, c.toNat < 128 := by
  simp [isAscii]

/-- Only the two joiners are looked at. -/
theorem joinersFit_of_ne (before : List Char) {cs : List Char}
    (h : ∀ c ∈ cs, c.toNat ≠ 0x200C ∧ c.toNat ≠ 0x200D) : joinersFit before cs = true := by
  induction cs generalizing before with
  | nil => rfl
  | cons c cs ih =>
      obtain ⟨hc, hcs⟩ := List.forall_mem_cons.1 h
      rw [joinersFit, ih (c :: before) hcs, Bool.and_true]
      split
      · rename_i hjoiner
        exact absurd hjoiner hc.1
      · rename_i hjoiner
        exact absurd hjoiner hc.2
      · rfl

/-- A label that does not claim to be written in digits. -/
def IsPlain (label : List Char) : Prop :=
  (∀ c ∈ label, isPlainChar c = true) ∧ label.take 4 ≠ ['x', 'n', '-', '-']

theorem IsPlain.ascii {label : List Char} (h : IsPlain label) : ∀ c ∈ label, c.toNat < 128 :=
  fun c hc => toNat_lt_of_isPlainChar (h.1 c hc)

theorem IsPlain.label {label : List Char} (h : IsPlain label) : Label.of? label = some ⟨label, label⟩ := by
  rw [Label.of?, if_neg h.2, if_pos (isAscii_iff.2 h.ascii)]

theorem IsPlain.wellFormed {label : List Char} (h : IsPlain label) :
    Label.wellFormed ⟨label, label⟩ = true := by
  have hmark : label.head?.any isMark = false := by
    cases label with
    | nil => rfl
    | cons c label =>
        have hlow : ¬ 0x300 ≤ c.toNat := by
          have hc := h.ascii c List.mem_cons_self
          omega
        rw [List.head?_cons, Option.any_some, isMark, decide_eq_false hlow, Bool.false_and]
  have hforbidden : label.any isForbidden = false := by
    refine List.any_eq_false.2 fun c hc => ?_
    have hallowed := ((isNameChar_iff c).1 ((isPlainChar_iff c).1 (h.1 c hc)).1).2
    simp [hallowed]
  have hjoiners : joinersFit [] label = true := by
    refine joinersFit_of_ne [] fun c hc => ?_
    have hc := h.ascii c hc
    omega
  rw [Label.wellFormed, hmark, hforbidden, hjoiners]
  rfl

theorem mapM_label_of_plain {parts : List (List Char)} (h : ∀ part ∈ parts, IsPlain part) :
    parts.mapM Label.of? = some (parts.map fun part => ⟨part, part⟩) := by
  induction parts with
  | nil => rfl
  | cons part parts ih =>
      obtain ⟨hpart, hparts⟩ := List.forall_mem_cons.1 h
      rw [List.mapM_cons, hpart.label, ih hparts]
      rfl

/-- A name of plain labels is its own ASCII form. -/
theorem toAscii?_of_plain {name : List Char} (h : ∀ part ∈ splitOn '.' name, IsPlain part)
    (hname : ∀ c ∈ name, isPlainChar c = true) : toAscii? name = some name := by
  have hascii : ∀ c ∈ name, c.toNat < 128 := fun c hc => toNat_lt_of_isPlainChar (hname c hc)
  have hwell : ((splitOn '.' name).map fun part => (⟨part, part⟩ : Label)).all Label.wellFormed = true := by
    rw [List.all_map, List.all_eq_true]
    exact fun part hpart => (h part hpart).wellFormed
  have hleft : isRightToLeft ((splitOn '.' name).map fun part => (⟨part, part⟩ : Label)) = false := by
    rw [isRightToLeft, List.any_map, List.any_eq_false]
    intro part hpart
    simp [isAscii_iff.2 (h part hpart).ascii]
  have hjoin : ((splitOn '.' name).map fun part => (⟨part, part⟩ : Label)).map Label.ascii
      = splitOn '.' name := by
    rw [List.map_map]
    exact List.map_id _
  simp only [toAscii?, mapped?_of_plainChars hname, compose_of_ascii hascii, mapM_label_of_plain h, hwell,
    hleft, hjoin, join_splitOn]
  rfl

theorem isPlainChar_of_isDigit {c : Char} (h : c.isDigit = true) : isPlainChar c = true := by
  simp only [Char.isDigit, Bool.and_eq_true, decide_eq_true_eq, ge_iff_le, UInt32.le_iff_toNat_le] at h
  obtain ⟨hlow, hhigh⟩ := h
  have hn : c.toNat = 48 ∨ c.toNat = 49 ∨ c.toNat = 50 ∨ c.toNat = 51 ∨ c.toNat = 52 ∨ c.toNat = 53
      ∨ c.toNat = 54 ∨ c.toNat = 55 ∨ c.toNat = 56 ∨ c.toNat = 57 := by
    have hlow' : 48 ≤ c.toNat := hlow
    have hhigh' : c.toNat ≤ 57 := hhigh
    omega
  rw [← Char.ofNat_toNat c]
  rcases hn with hn | hn | hn | hn | hn | hn | hn | hn | hn | hn <;> rw [hn] <;> decide

/-- Numbers between dots are their own ASCII form. -/
theorem toAscii?_join_digits {parts : List (List Char)} (hne : parts ≠ [])
    (h : ∀ part ∈ parts, ∀ c ∈ part, c.isDigit = true) :
    toAscii? (join '.' parts) = some (join '.' parts) := by
  have hsplit : splitOn '.' (join '.' parts) = parts :=
    splitOn_join hne fun part hpart hdot => absurd (h part hpart '.' hdot) (by decide)
  have hplain : ∀ part ∈ parts, IsPlain part := by
    intro part hpart
    refine ⟨fun c hc => isPlainChar_of_isDigit (h part hpart c hc), fun hdigits => ?_⟩
    have hx : 'x' ∈ part := List.mem_of_mem_take (by rw [hdigits]; exact List.mem_cons_self)
    exact absurd (h part hpart 'x' hx) (by decide)
  have hname : ∀ c ∈ join '.' parts, isPlainChar c = true := by
    intro c hc
    rcases mem_join hc with rfl | ⟨part, hpart, hc⟩
    · decide
    · exact (hplain part hpart).1 c hc
  exact toAscii?_of_plain (by rw [hsplit]; exact hplain) hname

end LinkSurvey.DomainName
