import LinkSurvey.Proofs.DomainName

/-!
What an ASCII form is made of. Each label of it is checked as it reads, not as it is written; but what is
written is either what is read, or the prefix of digits, the ASCII characters of what is read, a hyphen and
digits, none of which is a character that a domain name may not hold. An ASCII form that can be read is kept,
for mapping and cutting keep ASCII characters; but a label of it may have too many digits to be read.
-/

namespace LinkSurvey.DomainName

open Text

/-! ### Digits -/

namespace Punycode

theorem isNameChar_of_isSome_digitValue? {c : Char} (h : (digitValue? c).isSome = true) :
    isNameChar c = true := by
  have hsmall : c.toNat < 128 := by
    have hval : c.val.toNat = c.toNat := rfl
    have hz : 'z'.val.toNat = 122 := rfl
    have hZ : 'Z'.val.toNat = 90 := rfl
    have h9 : '9'.val.toNat = 57 := rfl
    simp only [digitValue?, Char.le_def, UInt32.le_iff_toNat_le] at h
    split at h
    · omega
    · split at h
      · omega
      · split at h
        · omega
        · cases h
  have hall : ∀ n < 128, (digitValue? (Char.ofNat n)).isSome = true → isNameChar (Char.ofNat n) = true := by
    decide
  have hc := hall c.toNat hsmall
  rw [Char.ofNat_toNat] at hc
  exact hc h

/-- Characters that digits are written with. -/
def IsDigit (c : Char) : Prop :=
  ∃ d < 36, digitChar d = c

theorem IsDigit.isPlainChar {c : Char} (h : IsDigit c) : isPlainChar c = true := by
  obtain ⟨d, hd, rfl⟩ := h
  have hall : ∀ d < 36, DomainName.isPlainChar (digitChar d) = true := by decide
  exact hall d hd

theorem isDigit_of_mem_digits {bias q k : Nat} {c : Char} (h : c ∈ digits bias q k) : IsDigit c := by
  fun_induction digits bias q k with
  | case1 q k t hq =>
      have ht := threshold_le bias k
      exact ⟨q, by omega, (List.mem_singleton.1 h).symm⟩
  | case2 q k t hq ih =>
      have ht := threshold_le bias k
      have hrest : (q - t) % (36 - t) < 36 - t := Nat.mod_lt _ (by omega)
      rcases List.mem_cons.1 h with rfl | h
      · exact ⟨_, by omega, rfl⟩
      · exact ih h

/-- Whatever is being read, the characters that are there stay, and all that is read are digits. -/
theorem decodeFrom_eq_some {n i bias value weight k : Nat} {first : Bool} {output cs reading : List Char}
    (h : decodeFrom n i bias value weight k first output cs = some reading) :
    (∀ c ∈ output, c ∈ reading) ∧ ∀ c ∈ cs, (digitValue? c).isSome = true := by
  fun_induction decodeFrom n i bias value weight k first output cs with
  | case1 =>
      rw [← Option.some.inj h]
      exact ⟨fun _ hc => hc, fun _ hc => absurd hc List.not_mem_nil⟩
  | case2 => cases h
  | case3 => cases h
  | case4 => cases h
  | case5 n i bias value weight k first output c cs d hd _ _ _ _ count at_ code hvalid place ih =>
      obtain ⟨hkept, hdigits⟩ := ih h
      have hplace : place ≤ output.length := Nat.le_of_lt_succ (Nat.mod_lt _ (Nat.succ_pos _))
      refine ⟨fun c hc => hkept c ((List.mem_insertIdx hplace).2 (Or.inr hc)), ?_⟩
      exact List.forall_mem_cons.2 ⟨Option.isSome_iff_exists.2 ⟨d, hd⟩, hdigits⟩
  | case6 => cases h
  | case7 n i bias value weight k first output c cs d hd _ _ _ _ ih =>
      obtain ⟨hkept, hdigits⟩ := ih h
      exact ⟨hkept, List.forall_mem_cons.2 ⟨Option.isSome_iff_exists.2 ⟨d, hd⟩, hdigits⟩⟩

/-- A label in digits holds what it stands for, hyphens and digits. -/
theorem mem_of_decode? {written reading : List Char} (h : decode? written = some reading) {c : Char}
    (hc : c ∈ written) : c ∈ reading ∨ c = '-' ∨ (digitValue? c).isSome = true := by
  simp only [decode?] at h
  split at h
  · cases h
  · obtain ⟨hkept, hdigits⟩ := decodeFrom_eq_some h
    rw [← List.mem_reverse, ← List.takeWhile_append_dropWhile (p := (· != '-')) (l := written.reverse),
      List.mem_append] at hc
    rcases hc with hc | hc
    · exact Or.inr (Or.inr (hdigits c (List.mem_reverse.2 hc)))
    · cases hrest : written.reverse.dropWhile (· != '-') with
      | nil =>
          rw [hrest] at hc
          cases hc
      | cons d rest =>
          rw [hrest] at hc hkept
          rcases List.mem_cons.1 hc with rfl | hc
          · have hhyphen := List.head?_dropWhile_not (· != '-') written.reverse
            rw [hrest, List.head?_cons] at hhyphen
            exact Or.inr (Or.inl (by simpa using hhyphen))
          · exact Or.inl (hkept c (List.mem_reverse.2 hc))

/-- A walk over a label writes digits. -/
theorem isDigit_walk {m : Nat} {p : Progress} {label : List Char} (h : ∀ c ∈ p.output, IsDigit c) :
    ∀ c ∈ (p.walk m label).output, IsDigit c := by
  refine List.foldlRecOn label _ (motive := fun p : Progress => ∀ c ∈ p.output, IsDigit c) h ?_
  intro p hp c _
  split
  · exact hp
  · split
    · intro d hd
      rcases List.mem_append.1 hd with hd | hd
      · exact isDigit_of_mem_digits (List.mem_reverse.1 hd)
      · exact hp d hd
    · exact hp

theorem isDigit_walks {label : List Char} {n : Nat} {p : Progress} {codes : List Nat}
    (h : ∀ c ∈ p.output, IsDigit c) : ∀ c ∈ (walks label n p codes).output, IsDigit c := by
  induction codes generalizing n p with
  | nil => exact h
  | cons m codes ih => exact ih (isDigit_walk h)

/-- A label is written in digits with its ASCII characters, a hyphen and digits. -/
theorem mem_encode {label : List Char} {c : Char} (hc : c ∈ encode label) :
    (c ∈ label ∧ c.toNat < 128) ∨ c = '-' ∨ IsDigit c := by
  rw [encode, List.mem_append, List.mem_append] at hc
  rcases hc with (hc | hc) | hc
  · exact Or.inl ((List.mem_filter.1 hc).imp_right of_decide_eq_true)
  · split at hc
    · cases hc
    · exact Or.inr (Or.inl (List.mem_singleton.1 hc))
  · exact Or.inr (Or.inr (isDigit_walks (fun _ hd => absurd hd List.not_mem_nil) c (List.mem_reverse.1 hc)))

end Punycode

/-! ### Labels -/

theorem isNameChar_of_mem_prefix {c : Char} (h : c ∈ ['x', 'n', '-', '-']) : isNameChar c = true := by
  have hall : ['x', 'n', '-', '-'].all isNameChar = true := by decide
  exact List.all_eq_true.1 hall c h

theorem Label.isForbidden_of_wellFormed {l : Label} (h : l.wellFormed = true) :
    ∀ c ∈ l.reading, isForbidden c = false := by
  rw [Label.wellFormed, Bool.and_eq_true, Bool.not_eq_true', List.any_eq_false] at h
  intro c hc
  exact Bool.eq_false_iff.2 (h.2 c hc)

/-- A label that is allowed as it reads is written with characters that are allowed. -/
theorem Label.isNameChar_ascii {part : List Char} {l : Label} (h : Label.of? part = some l)
    (hwell : l.wellFormed = true) : ∀ c ∈ l.ascii, isNameChar c = true := by
  have hallowed := Label.isForbidden_of_wellFormed hwell
  rw [Label.of?] at h
  split at h
  · rename_i hdigits
    split at h
    · cases h
    · split at h
      · cases h
      · rename_i reading hdecode
        split at h
        · cases h
        · cases h
          split at hdecode
          · rename_i hascii
            intro c hc
            rw [← List.take_append_drop 4 part, hdigits, List.mem_append] at hc
            rcases hc with hc | hc
            · exact isNameChar_of_mem_prefix hc
            · rcases Punycode.mem_of_decode? hdecode hc with hread | rfl | hdigit
              · exact (isNameChar_iff c).2 ⟨isAscii_iff.1 hascii c (List.mem_of_mem_drop hc), hallowed c hread⟩
              · decide
              · exact Punycode.isNameChar_of_isSome_digitValue? hdigit
          · cases hdecode
  · split at h
    · rename_i hascii
      cases h
      exact fun c hc => (isNameChar_iff c).2 ⟨isAscii_iff.1 hascii c hc, hallowed c hc⟩
    · split at h
      · cases h
      · cases h
        intro c hc
        rcases List.mem_append.1 hc with hc | hc
        · exact isNameChar_of_mem_prefix hc
        · rcases Punycode.mem_encode hc with ⟨hmem, hascii⟩ | rfl | hdigit
          · exact (isNameChar_iff c).2 ⟨hascii, hallowed c hmem⟩
          · decide
          · exact ((isPlainChar_iff c).1 hdigit.isPlainChar).1

theorem exists_of_mem_mapM {parts : List (List Char)} {labels : List Label}
    (h : parts.mapM Label.of? = some labels) {l : Label} (hl : l ∈ labels) :
    ∃ part ∈ parts, Label.of? part = some l := by
  induction parts generalizing labels with
  | nil =>
      cases h
      cases hl
  | cons part parts ih =>
      rw [List.mapM_cons] at h
      obtain ⟨first, hfirst, hrest⟩ := Option.bind_eq_some_iff.1 h
      obtain ⟨others, hothers, hlabels⟩ := Option.bind_eq_some_iff.1 hrest
      cases hlabels
      rcases List.mem_cons.1 hl with rfl | hl
      · exact ⟨part, List.mem_cons_self, hfirst⟩
      · obtain ⟨other, hother, hof⟩ := ih hothers hl
        exact ⟨other, List.mem_cons_of_mem part hother, hof⟩

/-! ### Names -/

/-- What a name was taken apart into when it has an ASCII form. -/
theorem exists_labels_of_toAscii? {name ascii : List Char} (h : toAscii? name = some ascii) :
    ∃ text labels, mapped? name = some text ∧ (splitOn '.' (Canonical.compose text)).mapM Label.of? = some labels
      ∧ labels.all Label.wellFormed = true ∧ ascii = join '.' (labels.map Label.ascii) := by
  rw [toAscii?] at h
  split at h
  · cases h
  · rename_i text hmapped
    split at h
    · cases h
    · rename_i labels hlabels
      split at h
      · cases h
      · rename_i hwell
        split at h
        · cases h
        · exact ⟨text, labels, hmapped, hlabels, by simpa using hwell, (Option.some.inj h).symm⟩

/-- An ASCII form holds ASCII characters that a domain name may hold. -/
theorem isNameChar_of_toAscii? {name ascii : List Char} (h : toAscii? name = some ascii) :
    ∀ c ∈ ascii, isNameChar c = true := by
  obtain ⟨text, labels, -, hlabels, hwell, rfl⟩ := exists_labels_of_toAscii? h
  intro c hc
  rcases mem_join hc with rfl | ⟨part, hpart, hc⟩
  · decide
  · obtain ⟨l, hl, rfl⟩ := List.mem_map.1 hpart
    obtain ⟨part, -, hof⟩ := exists_of_mem_mapM hlabels hl
    exact Label.isNameChar_ascii hof (List.all_eq_true.1 hwell l hl) c hc

/-! ### Names of ASCII characters -/

/-- The lower case of an ASCII character is one that is no capital letter, and itself if the character is none. -/
theorem toLower_of_ascii {c : Char} (h : c.toNat < 128) :
    c.toLower.toNat < 128 ∧ c.toLower.isUpper = false ∧ (c.isUpper = false → c.toLower = c) := by
  have hall : ∀ n < 128, (Char.ofNat n).toLower.toNat < 128 ∧ (Char.ofNat n).toLower.isUpper = false
      ∧ ((Char.ofNat n).isUpper = false → (Char.ofNat n).toLower = Char.ofNat n) := by
    decide
  have hc := hall c.toNat h
  rwa [Char.ofNat_toNat] at hc

/-- Mapping keeps ASCII characters, in lower case. -/
theorem mapped?_of_ascii {cs : List Char} (h : ∀ c ∈ cs, c.toNat < 128) :
    mapped? cs = some (cs.map Char.toLower) := by
  induction cs with
  | nil => rfl
  | cons c cs ih =>
      obtain ⟨hc, hcs⟩ := List.forall_mem_cons.1 h
      rw [mapped?, status, if_pos hc, ih hcs]
      cases hupper : c.isUpper with
      | false =>
          rw [List.map_cons, (toLower_of_ascii hc).2.2 hupper]
          rfl
      | true => rfl

theorem toNat_of_mem_map_toLower {cs : List Char} (h : ∀ c ∈ cs, c.toNat < 128) :
    ∀ c ∈ cs.map Char.toLower, c.toNat < 128 := by
  intro c hc
  obtain ⟨d, hd, rfl⟩ := List.mem_map.1 hc
  exact (toLower_of_ascii (h d hd)).1

theorem map_toLower_map_toLower {cs : List Char} (h : ∀ c ∈ cs, c.toNat < 128) :
    (cs.map Char.toLower).map Char.toLower = cs.map Char.toLower := by
  rw [List.map_map]
  refine List.map_congr_left fun c hc => ?_
  obtain ⟨hascii, hlower, -⟩ := toLower_of_ascii (h c hc)
  exact (toLower_of_ascii hascii).2.2 hlower

/-- Names that differ only in the case of ASCII letters have the same ASCII form. -/
theorem toAscii?_map_toLower {name : List Char} (h : ∀ c ∈ name, c.toNat < 128) :
    toAscii? (name.map Char.toLower) = toAscii? name := by
  rw [toAscii?, toAscii?, mapped?_of_ascii h, mapped?_of_ascii (toNat_of_mem_map_toLower h), map_toLower_map_toLower h]

/-- A label of ASCII characters is kept, whether it is written in digits or not. -/
theorem Label.ascii_of_isAscii {part : List Char} (hpart : ∀ c ∈ part, c.toNat < 128) {l : Label}
    (h : Label.of? part = some l) : l.ascii = part := by
  rw [Label.of?] at h
  split at h
  · split at h
    · cases h
    · split at h
      · cases h
      · split at h
        · cases h
        · cases h
          rfl
  · rw [if_pos (isAscii_iff.2 hpart)] at h
    cases h
    rfl

theorem map_ascii_of_isAscii {parts : List (List Char)} (hparts : ∀ part ∈ parts, ∀ c ∈ part, c.toNat < 128)
    {labels : List Label} (h : parts.mapM Label.of? = some labels) : labels.map Label.ascii = parts := by
  induction parts generalizing labels with
  | nil =>
      cases h
      rfl
  | cons part parts ih =>
      obtain ⟨hpart, hrest⟩ := List.forall_mem_cons.1 hparts
      rw [List.mapM_cons] at h
      obtain ⟨first, hfirst, hothers⟩ := Option.bind_eq_some_iff.1 h
      obtain ⟨others, hmapped, hlabels⟩ := Option.bind_eq_some_iff.1 hothers
      cases hlabels
      rw [List.map_cons, Label.ascii_of_isAscii hpart hfirst, ih hrest hmapped]

/-- The ASCII form of a name that is ASCII already stands for itself. -/
theorem toAscii?_self_of_ascii {name ascii : List Char} (hname : ∀ c ∈ name, c.toNat < 128)
    (h : toAscii? name = some ascii) : toAscii? ascii = some ascii := by
  obtain ⟨text, labels, hmapped, hlabels, -, hjoin⟩ := exists_labels_of_toAscii? h
  have hsmall := toNat_of_mem_map_toLower hname
  obtain rfl : name.map Char.toLower = text := Option.some.inj ((mapped?_of_ascii hname).symm.trans hmapped)
  rw [compose_of_ascii hsmall] at hlabels
  have hparts : ∀ part ∈ splitOn '.' (name.map Char.toLower), ∀ c ∈ part, c.toNat < 128 :=
    fun part hpart c hc => hsmall c (mem_of_mem_splitOn hpart hc)
  have hform : ascii = name.map Char.toLower := by rw [hjoin, map_ascii_of_isAscii hparts hlabels, join_splitOn]
  rw [hform, toAscii?_map_toLower hname, h, hform]

theorem mapM_label_of_none {parts : List (List Char)} {part : List Char} (hpart : part ∈ parts)
    (h : Label.of? part = none) : parts.mapM Label.of? = none := by
  induction parts with
  | nil => cases hpart
  | cons first parts ih =>
      rw [List.mapM_cons]
      rcases List.mem_cons.1 hpart with rfl | hpart
      · rw [h]
        rfl
      · rw [ih hpart]
        cases Label.of? first <;> rfl

/-- A name has no ASCII form if one of its labels is written with more digits than are read. -/
theorem toAscii?_of_long {name part : List Char} (hname : ∀ c ∈ name, isPlainChar c = true)
    (hpart : part ∈ splitOn '.' name) (hdigits : part.take 4 = ['x', 'n', '-', '-'])
    (hlong : longestDecoded + 4 < part.length) : toAscii? name = none := by
  have hascii : ∀ c ∈ name, c.toNat < 128 := fun c hc => toNat_lt_of_isPlainChar (hname c hc)
  have hlabel : Label.of? part = none := by rw [Label.of?, if_pos hdigits, if_pos hlong]
  simp only [toAscii?, mapped?_of_plainChars hname, compose_of_ascii hascii, mapM_label_of_none hpart hlabel]

end LinkSurvey.DomainName
