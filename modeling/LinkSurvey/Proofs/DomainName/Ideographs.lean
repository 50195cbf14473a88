import LinkSurvey.Proofs.DomainName.Characters
import LinkSurvey.Proofs.DomainName.Digits

/-!
Labels of ideographs. By the tables the characters of this block are kept by mapping and composition, are no marks
and are written from left to right, so a label of up to a thousand of them has an ASCII form. If they are many and
lie far apart, the digits of this form are more than are read.
-/

namespace LinkSurvey.DomainName

open Text

/-- The block of unified ideographs. -/
def IsIdeograph (c : Char) : Prop :=
  0x4E00 ≤ c.toNat ∧ c.toNat ≤ 0x9FFF

/-! ### The tables -/

/-- Code points from `first` to `last` are no ideographs. -/
def leavesIdeographs (first last : Nat) : Bool :=
  last < 0x4E00 || 0x9FFF < first

theorem IsIdeograph.not_between {c : Char} (h : IsIdeograph c) {first last : Nat}
    (hleaves : leavesIdeographs first last = true) : ¬(first ≤ c.toNat ∧ c.toNat ≤ last) := by
  obtain ⟨hlow, hhigh⟩ := h
  rw [leavesIdeographs, Bool.or_eq_true, decide_eq_true_eq, decide_eq_true_eq] at hleaves
  omega

-- To evaluate a table its lines have to be lists of characters, not texts.
set_option maxRecDepth 100000 in
theorem validTable_holds_ideographs :
    (validTable.toList.any fun r => decide (r.1 ≤ 0x4E00) && decide (0x9FFF ≤ r.2)) = true := by
  rw [validTable, Packed.intervals, Packed.numbers, String.toList_join]
  simp only [List.flatMap_cons, List.flatMap_nil]
  repeat rw [String.toList_ofList]
  decide +kernel

set_option maxRecDepth 100000 in
theorem markTable_leaves_ideographs : (markTable.toList.all fun r => leavesIdeographs r.1 r.2) = true := by
  rw [markTable, Packed.intervals, Packed.numbers, String.toList_join]
  simp only [List.flatMap_cons, List.flatMap_nil]
  repeat rw [String.toList_ofList]
  decide +kernel

set_option maxRecDepth 100000 in
theorem classTable_leaves_ideographs :
    (Canonical.classTable.toList.all fun r => leavesIdeographs r.1 r.2.1) = true := by
  rw [Canonical.classTable, Packed.numbers, String.toList_join]
  simp only [List.flatMap_cons, List.flatMap_nil]
  repeat rw [String.toList_ofList]
  decide +kernel

set_option maxRecDepth 100000 in
theorem decompositionTable_leaves_ideographs :
    (Canonical.decompositionTable.toList.all fun r => leavesIdeographs r.1 r.1) = true := by
  rw [Canonical.decompositionTable, Canonical.expansions, Packed.numbers, String.toList_join]
  simp only [List.flatMap_cons, List.flatMap_nil]
  repeat rw [String.toList_ofList]
  decide +kernel

set_option maxRecDepth 100000 in
theorem pairTable_leaves_ideographs :
    (Canonical.pairTable.toList.all fun r => leavesIdeographs r.2.1 r.2.1) = true := by
  rw [Canonical.pairTable, Packed.numbers, String.toList_join]
  simp only [List.flatMap_cons, List.flatMap_nil]
  repeat rw [String.toList_ofList]
  decide +kernel

set_option maxRecDepth 100000 in
/-- No run of one direction ends between ideographs. -/
theorem directionTable_leaves_ideographs :
    (directionTable.toList.all fun r => decide (r.1 ≤ 0x4E00) || decide (0x9FFF < r.1)) = true := by
  rw [directionTable, Packed.numbers, String.toList_join]
  simp only [List.flatMap_cons, List.flatMap_nil]
  repeat rw [String.toList_ofList]
  decide +kernel

set_option maxRecDepth 100000 in
theorem direction_first_ideograph :
    directionTable.toList.foldl (fun d (first, next) => if first ≤ 0x4E00 then next else d) .left
      = Direction.left := by
  rw [directionTable, Packed.numbers, String.toList_join]
  simp only [List.flatMap_cons, List.flatMap_nil]
  repeat rw [String.toList_ofList]
  decide +kernel

/-! ### The characters -/

namespace IsIdeograph

variable {c : Char} (h : IsIdeograph c)
include h

theorem not_ascii : ¬c.toNat < 128 :=
  Nat.not_lt.2 (Nat.le_trans (by decide) h.1)

theorem status : status c = .valid := by
  have hholds : Packed.holds validTable c = true := by
    obtain ⟨⟨first, last⟩, hmem, hr⟩ := List.any_eq_true.1 validTable_holds_ideographs
    rw [Bool.and_eq_true, decide_eq_true_eq, decide_eq_true_eq] at hr
    rw [Packed.holds, ← Array.any_toList]
    refine List.any_eq_true.2 ⟨(first, last), hmem, ?_⟩
    rw [Bool.and_eq_true, decide_eq_true_eq, decide_eq_true_eq]
    exact ⟨hr.1.trans h.1, h.2.trans hr.2⟩
  rw [DomainName.status, if_neg h.not_ascii, if_pos hholds]

theorem isMark : isMark c = false := by
  have hholds : Packed.holds markTable c = false := by
    rw [Packed.holds, ← Array.any_toList]
    refine List.any_eq_false.2 fun r hr => ?_
    have hleaves := List.all_eq_true.1 markTable_leaves_ideographs r hr
    rw [Bool.and_eq_true, decide_eq_true_eq, decide_eq_true_eq]
    exact h.not_between hleaves
  rw [DomainName.isMark, hholds, Bool.and_false]

theorem direction : direction c = .left := by
  rw [← direction_first_ideograph, DomainName.direction, ← Array.foldl_toList]
  refine List.foldl_ext _ _ _ fun d r hr => ?_
  have hleaves := List.all_eq_true.1 directionTable_leaves_ideographs r hr
  rw [Bool.or_eq_true, decide_eq_true_eq, decide_eq_true_eq] at hleaves
  obtain ⟨hlow, hhigh⟩ := h
  have hsame : r.1 ≤ c.toNat ↔ r.1 ≤ 0x4E00 := by omega
  simp only [hsame]

theorem combiningClass : Canonical.combiningClass c = 0 := by
  rw [Canonical.combiningClass, Array.find?_eq_none.2]
  · exact ite_self 0
  · intro ⟨first, last, value⟩ hr hcode
    have hleaves := List.all_eq_true.1 classTable_leaves_ideographs _ (Array.mem_toList_iff.2 hr)
    rw [Bool.and_eq_true, decide_eq_true_eq, decide_eq_true_eq] at hcode
    exact h.not_between hleaves hcode

theorem decompose : Canonical.decompose c = [c] := by
  have hhangul : ¬(0xAC00 ≤ c.toNat ∧ c.toNat ≤ 0xD7A3) := fun hc => by
    have hhigh := h.2
    omega
  unfold Canonical.decompose
  extract_lets n
  rw [if_neg hhangul, Array.find?_eq_none.2]
  · exact ite_self [c]
  · intro ⟨code, parts⟩ hr hcode
    have hleaves := List.all_eq_true.1 decompositionTable_leaves_ideographs _ (Array.mem_toList_iff.2 hr)
    rw [beq_iff_eq] at hcode
    exact h.not_between hleaves ⟨hcode.le, hcode.ge⟩

theorem composePair (s : Char) : Canonical.composePair s c = none := by
  obtain ⟨hlow, hhigh⟩ := id h
  have hvowel : ¬(0x1100 ≤ s.toNat ∧ s.toNat ≤ 0x1112 ∧ 0x1161 ≤ c.toNat ∧ c.toNat ≤ 0x1175) := by omega
  have hfinal : ¬(0xAC00 ≤ s.toNat ∧ s.toNat ≤ 0xD7A3 ∧ (s.toNat - 0xAC00) % 28 = 0 ∧ 0x11A8 ≤ c.toNat
      ∧ c.toNat ≤ 0x11C2) := by omega
  unfold Canonical.composePair
  extract_lets m n
  rw [if_neg hvowel, if_neg hfinal, Array.find?_eq_none.2]
  · exact ite_self none
  · intro ⟨first, second, composed⟩ hr hpair
    have hleaves := List.all_eq_true.1 pairTable_leaves_ideographs _ (Array.mem_toList_iff.2 hr)
    rw [Bool.and_eq_true, beq_iff_eq, beq_iff_eq] at hpair
    exact h.not_between hleaves ⟨hpair.2.le, hpair.2.ge⟩

theorem isInert : IsInert c :=
  ⟨h.decompose, h.combiningClass, h.composePair⟩

theorem not_mem_of_ascii {cs : List Char} (hascii : isAscii cs = true) : c ∉ cs :=
  fun hmem => h.not_ascii (isAscii_iff.1 hascii c hmem)

theorem isForbidden : isForbidden c = false := by
  have hother : ['#', '/', ':', '<', '>', '?', '@', '[', '\\', ']', '^', '|', '%'].contains c = false := by
    rw [List.contains_eq_mem, decide_eq_false_iff_not]
    exact h.not_mem_of_ascii (by decide)
  have hlow := h.1
  rw [DomainName.isForbidden, hother, Bool.or_false, Bool.or_eq_false_iff, decide_eq_false_iff_not, beq_eq_false_iff_ne]
  omega

end IsIdeograph

/-! ### The labels -/

/-- How a label of ideographs is written. -/
def inDigits (label : List Char) : List Char :=
  ['x', 'n', '-', '-'] ++ Punycode.encode label

section Labels

variable {label : List Char} (hlabel : ∀ c ∈ label, IsIdeograph c)
include hlabel

theorem mapped?_of_ideographs : mapped? label = some label := by
  induction label with
  | nil => rfl
  | cons c label ih =>
      obtain ⟨hc, hrest⟩ := List.forall_mem_cons.1 hlabel
      rw [mapped?, hc.status, ih hrest]
      rfl

theorem wellFormed_of_ideographs (ascii : List Char) : Label.wellFormed ⟨label, ascii⟩ = true := by
  have hmark : label.head?.any isMark = false := by
    cases label with
    | nil => rfl
    | cons c label => exact (hlabel c List.mem_cons_self).isMark
  have hforbidden : label.any isForbidden = false := by
    refine List.any_eq_false.2 fun c hc => ?_
    rw [(hlabel c hc).isForbidden]
    exact Bool.false_ne_true
  have hjoiners : joinersFit [] label = true := by
    refine joinersFit_of_ne [] fun c hc => ?_
    have hlow := (hlabel c hc).1
    omega
  rw [Label.wellFormed, hmark, hforbidden, hjoiners]
  rfl

theorem isRightToLeft_of_ideographs (ascii : List Char) : isRightToLeft [⟨label, ascii⟩] = false := by
  have hleft : label.any (fun c => (direction c).isRight) = false := by
    refine List.any_eq_false.2 fun c hc => ?_
    rw [(hlabel c hc).direction]
    exact Bool.false_ne_true
  rw [isRightToLeft, List.any_cons, hleft, Bool.and_false, List.any_nil, Bool.or_false]

/-- What is written holds small letters, numerals and hyphens, and is a single label. -/
theorem mem_inDigits {c : Char} (hc : c ∈ inDigits label) : isPlainChar c = true ∧ c ≠ '.' := by
  rcases List.mem_append.1 hc with hc | hc
  · have hall : ['x', 'n', '-', '-'].all (fun d => isPlainChar d && d != '.') = true := by decide
    have hplain := List.all_eq_true.1 hall c hc
    rwa [Bool.and_eq_true, bne_iff_ne] at hplain
  · rcases Punycode.mem_encode hc with ⟨hmem, hascii⟩ | rfl | ⟨d, hd, rfl⟩
    · exact absurd hascii (hlabel c hmem).not_ascii
    · decide
    · have hall : ∀ d < 36, isPlainChar (Punycode.digitChar d) = true ∧ Punycode.digitChar d ≠ '.' := by decide
      exact hall d hd

/-- If a label has many characters that lie far apart, what is written for it is not read. -/
theorem toAscii?_inDigits {gap few : Nat} (hspread : Punycode.Rises gap 128 label) (hfew : 911 ≤ gap * (few + 1))
    (hmany : longestDecoded < 3 * (label.length - few)) : toAscii? (inDigits label) = none := by
  have hpart : inDigits label ∈ splitOn '.' (inDigits label) := by
    rw [splitOn_of_not_mem fun hmem => (mem_inDigits hlabel hmem).2 rfl]
    exact List.mem_singleton_self _
  have hdigits : 3 * (label.length - few) ≤ (Punycode.encode label).length := Punycode.length_encode hfew hspread
  refine toAscii?_of_long (fun c hc => (mem_inDigits hlabel hc).1) hpart rfl ?_
  rw [inDigits, List.length_append, Nat.add_comm]
  exact Nat.add_lt_add_left (hmany.trans_le hdigits) 4

variable (hne : label ≠ []) (hlength : label.length ≤ longestEncoded)
include hne hlength

/-- A label of up to a thousand ideographs is written in digits. -/
theorem toAscii?_of_ideographs : toAscii? label = some (inDigits label) := by
  have hdot : '.' ∉ label := fun hmem => (hlabel '.' hmem).not_ascii (by decide)
  have hplain : label.take 4 ≠ ['x', 'n', '-', '-'] := by
    intro hdigits
    have hx : 'x' ∈ label := List.mem_of_mem_take (by rw [hdigits]; exact List.mem_cons_self)
    exact (hlabel 'x' hx).not_ascii (by decide)
  have hascii : ¬isAscii label = true := by
    obtain ⟨c, cs, rfl⟩ := List.exists_cons_of_ne_nil hne
    exact fun hall => (hlabel c List.mem_cons_self).not_ascii (isAscii_iff.1 hall c List.mem_cons_self)
  have hof : Label.of? label = some ⟨label, inDigits label⟩ := by
    rw [inDigits, Label.of?, if_neg hplain, if_neg hascii, if_neg (Nat.not_lt.2 hlength)]
  have hkept : Canonical.compose label = label := compose_of_isInert fun c hc => (hlabel c hc).isInert
  simp only [toAscii?, mapped?_of_ideographs hlabel, hkept, splitOn_of_not_mem hdot, List.mapM_cons, List.mapM_nil, hof]
  simp [wellFormed_of_ideographs hlabel, isRightToLeft_of_ideographs hlabel, join]

end Labels

end LinkSurvey.DomainName
