import LinkSurvey.Proofs.Url.Percent
import LinkSurvey.Url.Path

/-!
Paths of web-like URLs in normal form. Every segment that is read is encoded, holds no slash of either
kind, and is not a dot segment; and a path of such segments, written down and read again, is the same path.
-/

namespace LinkSurvey.Url

variable {port : Nat}

/-- A segment that stands for itself in the path of a web-like URL. -/
structure Segment.IsNormal (s : Segment) : Prop where
  encoded : Encoded inPath s
  slash : '/' ∉ s
  backslash : '\\' ∉ s
  single : isSingleDot s = false
  double : isDoubleDot s = false

theorem isNormal_nil : Segment.IsNormal [] :=
  ⟨encoded_nil inPath, List.not_mem_nil, List.not_mem_nil, rfl, rfl⟩

theorem isSlash_web (port : Nat) (c : Char) :
    isSlash (.web port) c = true ↔ c = '/' ∨ c = '\\' := by
  simp [isSlash, Kind.isSpecial]

/-! ### Parts between slashes -/

theorem splitSlashes_ne_nil (k : Kind) (cs : List Char) : splitSlashes k cs ≠ [] := by
  cases cs with
  | nil => simp [splitSlashes]
  | cons c cs =>
      rw [splitSlashes]
      split_ifs
      · simp
      · split <;> simp

theorem splitSlashes_cons {k : Kind} {c : Char} (h : isSlash k c = false) {cs : List Char}
    {part : Segment} {parts : List Segment} (hparts : splitSlashes k cs = part :: parts) :
    splitSlashes k (c :: cs) = (c :: part) :: parts := by
  rw [splitSlashes, hparts, h]
  rfl

theorem no_slash_of_mem_splitSlashes {k : Kind} {cs : List Char} {part : Segment}
    (hpart : part ∈ splitSlashes k cs) : ∀ c ∈ part, isSlash k c = false := by
  induction cs generalizing part with
  | nil =>
      rw [splitSlashes, List.mem_singleton] at hpart
      rw [hpart]
      exact fun _ hc => absurd hc List.not_mem_nil
  | cons d cs ih =>
      obtain ⟨first, parts, hparts⟩ := List.exists_cons_of_ne_nil (splitSlashes_ne_nil k cs)
      rw [hparts] at ih
      by_cases hd : isSlash k d = true
      · rw [splitSlashes, if_pos hd, hparts] at hpart
        rcases List.mem_cons.1 hpart with rfl | hpart
        · exact fun _ hc => absurd hc List.not_mem_nil
        · exact ih hpart
      · rw [Bool.not_eq_true] at hd
        rw [splitSlashes_cons hd hparts] at hpart
        rcases List.mem_cons.1 hpart with rfl | hpart
        · exact List.forall_mem_cons.2 ⟨hd, ih List.mem_cons_self⟩
        · exact ih (List.mem_cons_of_mem first hpart)

theorem splitSlashes_append {k : Kind} {part : Segment} (h : ∀ c ∈ part, isSlash k c = false)
    {slash : Char} (hslash : isSlash k slash = true) (rest : List Char) :
    splitSlashes k (part ++ slash :: rest) = part :: splitSlashes k rest := by
  induction part with
  | nil => rw [List.nil_append, splitSlashes, if_pos hslash]
  | cons c part ih =>
      obtain ⟨hc, hpart⟩ := List.forall_mem_cons.1 h
      exact splitSlashes_cons hc (ih hpart)

theorem splitSlashes_of_no_slash {k : Kind} {part : Segment} (h : ∀ c ∈ part, isSlash k c = false) :
    splitSlashes k part = [part] := by
  induction part with
  | nil => rfl
  | cons c part ih =>
      obtain ⟨hc, hpart⟩ := List.forall_mem_cons.1 h
      exact splitSlashes_cons hc (ih hpart)

theorem Segment.IsNormal.no_slash {s : Segment} (h : s.IsNormal) (port : Nat) :
    ∀ c ∈ s, isSlash (.web port) c = false := by
  intro c hc
  rw [Bool.eq_false_iff, ne_eq, isSlash_web]
  rintro (rfl | rfl)
  · exact h.slash hc
  · exact h.backslash hc

theorem splitSlashes_segmentsText {s : Segment} {names : List Segment}
    (h : ∀ name ∈ s :: names, Segment.IsNormal name) :
    splitSlashes (.web port) (s ++ segmentsText names) = s :: names := by
  induction names generalizing s with
  | nil =>
      rw [segmentsText, List.flatMap_nil, List.append_nil]
      exact splitSlashes_of_no_slash ((h s List.mem_cons_self).no_slash port)
  | cons next names ih =>
      obtain ⟨hs, hnames⟩ := List.forall_mem_cons.1 h
      have hslash : isSlash (.web port) '/' = true := (isSlash_web port '/').2 (Or.inl rfl)
      show splitSlashes (.web port) (s ++ '/' :: (next ++ segmentsText names)) = s :: next :: names
      rw [splitSlashes_append (hs.no_slash port) hslash, ih hnames]

/-! ### Dot segments -/

theorem isSingleDot_iff (part : Segment) :
    isSingleDot part = true ↔
      part = ['.'] ∨ ∃ e, (e = 'e' ∨ e = 'E') ∧ part = ['%', '2', e] := by
  constructor
  · intro h
    unfold isSingleDot at h
    split at h
    · exact Or.inl rfl
    · rename_i e
      rw [Bool.or_eq_true, beq_iff_eq, beq_iff_eq] at h
      exact Or.inr ⟨e, h, rfl⟩
    · exact absurd h (by decide)
  · rintro (rfl | ⟨e, rfl | rfl, rfl⟩) <;> rfl

theorem isDoubleDot_iff (part : Segment) :
    isDoubleDot part = true ↔ ∃ rest, isSingleDot rest = true ∧
      (part = '.' :: rest ∨ ∃ e, (e = 'e' ∨ e = 'E') ∧ part = '%' :: '2' :: e :: rest) := by
  constructor
  · intro h
    unfold isDoubleDot at h
    split at h
    · rename_i rest
      exact ⟨rest, h, Or.inl rfl⟩
    · rename_i e rest
      rw [Bool.and_eq_true, Bool.or_eq_true, beq_iff_eq, beq_iff_eq] at h
      exact ⟨rest, h.2, Or.inr ⟨e, h.1, rfl⟩⟩
    · exact absurd h (by decide)
  · rintro ⟨rest, hrest, rfl | ⟨e, rfl | rfl, rfl⟩⟩ <;> exact hrest

theorem of_isSingleDot_percentEncode {part : Segment}
    (h : isSingleDot (percentEncode inPath part) = true) : isSingleDot part = true := by
  rw [isSingleDot_iff] at h ⊢
  rcases h with h | ⟨e, he, h⟩
  · obtain ⟨rest, rfl, hrest⟩ := of_percentEncode_cons (by decide) h
    rw [eq_nil_of_percentEncode hrest]
    exact Or.inl rfl
  · obtain ⟨rest, rfl, hrest⟩ := of_percentEncode_dot (by decide) he h
    rw [eq_nil_of_percentEncode hrest]
    exact Or.inr ⟨e, he, rfl⟩

theorem of_isDoubleDot_percentEncode {part : Segment}
    (h : isDoubleDot (percentEncode inPath part) = true) : isDoubleDot part = true := by
  rw [isDoubleDot_iff] at h ⊢
  obtain ⟨text, hdot, h | ⟨e, he, h⟩⟩ := h
  · obtain ⟨rest, rfl, rfl⟩ := of_percentEncode_cons (by decide) h
    exact ⟨rest, of_isSingleDot_percentEncode hdot, Or.inl rfl⟩
  · obtain ⟨rest, rfl, rfl⟩ := of_percentEncode_dot (by decide) he h
    exact ⟨rest, of_isSingleDot_percentEncode hdot, Or.inr ⟨e, he, rfl⟩⟩

/-- A part of a path that is not a dot segment is normal once it is encoded. -/
theorem isNormal_percentEncode {part : Segment} (hslash : ∀ c ∈ part, isSlash (.web port) c = false)
    (hsingle : isSingleDot part = false) (hdouble : isDoubleDot part = false) :
    Segment.IsNormal (percentEncode inPath part) where
  encoded := encoded_percentEncode isStable_inPath part
  slash := by
    refine not_mem_percentEncode (fun hc => ?_) (by decide)
    exact absurd (hslash '/' hc) (by simp [isSlash])
  backslash := by
    refine not_mem_percentEncode (fun hc => ?_) (by decide)
    exact absurd (hslash '\\' hc) (by simp [isSlash, Kind.isSpecial])
  single := by
    rw [Bool.eq_false_iff]
    intro h
    rw [of_isSingleDot_percentEncode h] at hsingle
    exact absurd hsingle (by decide)
  double := by
    rw [Bool.eq_false_iff]
    intro h
    rw [of_isDoubleDot_percentEncode h] at hdouble
    exact absurd hdouble (by decide)

/-! ### Walking a path -/

/-- A path of normal segments, of which there is at least one. -/
structure IsNormalPath (names : List Segment) : Prop where
  ne_nil : names ≠ []
  normal : ∀ name ∈ names, Segment.IsNormal name

theorem pushSegment_web (port : Nat) (stack : List Segment) (part : Segment) :
    pushSegment (.web port) stack part = percentEncode inPath part :: stack := by
  simp [pushSegment]

theorem dropSegment_web (port : Nat) (stack : List Segment) :
    dropSegment (.web port) stack = stack.tail := by
  unfold dropSegment
  split <;> simp

theorem mem_of_mem_stepBack {stack : List Segment} {name : Segment} (h : name ∈ stepBack stack) :
    name ∈ stack := by
  cases stack with
  | nil => exact h
  | cons last rest =>
      rw [stepBack] at h
      split at h
      · exact h
      · exact List.mem_cons_of_mem last h

/-- Walking on from normal segments, every segment on the stack is normal. -/
theorem isNormalPath_walkPath {stack parts : List Segment} (hparts : parts ≠ [])
    (hslash : ∀ part ∈ parts, ∀ c ∈ part, isSlash (.web port) c = false)
    (hstack : ∀ name ∈ stack, Segment.IsNormal name) :
    IsNormalPath (walkPath (.web port) stack parts) := by
  induction parts generalizing stack with
  | nil => exact absurd rfl hparts
  | cons part parts ih =>
      obtain ⟨hpart, hrest⟩ := List.forall_mem_cons.1 hslash
      have hback : ∀ name ∈ stepBack stack, Segment.IsNormal name :=
        fun name hname => hstack name (mem_of_mem_stepBack hname)
      -- A dot segment that ends the path leaves an empty segment there.
      have hdots : ∀ next, (∀ name ∈ next, Segment.IsNormal name) →
          IsNormalPath (if parts.isEmpty then [] :: next else walkPath (.web port) next parts) := by
        intro next hnext
        cases parts with
        | nil => exact ⟨by simp, List.forall_mem_cons.2 ⟨isNormal_nil, hnext⟩⟩
        | cons other parts => exact ih (by simp) hrest hnext
      rw [walkPath]
      cases hdouble : isDoubleDot part with
      | true =>
          simp only [Bool.true_or, Bool.and_true, if_true]
          exact hdots (stepBack stack) hback
      | false =>
          cases hsingle : isSingleDot part with
          | true =>
              simp only [Bool.or_true, Bool.and_true, if_true, Bool.false_eq_true, if_false]
              exact hdots stack hstack
          | false =>
              simp only [pushSegment_web, Bool.or_self, Bool.and_false, Bool.false_eq_true, if_false]
              have hnext := List.forall_mem_cons.2 ⟨isNormal_percentEncode hpart hsingle hdouble, hstack⟩
              cases parts with
              | nil => exact ⟨by simp [walkPath], hnext⟩
              | cons other parts => exact ih (by simp) hrest hnext

theorem walkPath_of_isNormal (stack : List Segment) {parts : List Segment}
    (h : ∀ part ∈ parts, Segment.IsNormal part) :
    walkPath (.web port) stack parts = parts.reverse ++ stack := by
  induction parts generalizing stack with
  | nil => rfl
  | cons part parts ih =>
      obtain ⟨hpart, hparts⟩ := List.forall_mem_cons.1 h
      simp only [walkPath, hpart.double, hpart.single, pushSegment_web,
        percentEncode_of_encoded hpart.encoded, ih _ hparts, Bool.or_self, Bool.and_false,
        Bool.false_eq_true, if_false, List.reverse_cons, List.append_assoc, List.singleton_append]

theorem readPath_web (start : List Segment) (cs : List Char) :
    readPath (.web port) start cs
      = (walkPath (.web port) start.reverse (splitSlashes (.web port) cs)).reverse := by
  simp [readPath]

theorem isNormalPath_readPath {start : List Segment} (hstart : ∀ name ∈ start, Segment.IsNormal name)
    (cs : List Char) : IsNormalPath (readPath (.web port) start cs) := by
  have hwalk := isNormalPath_walkPath (splitSlashes_ne_nil (.web port) cs)
    (fun part hpart => no_slash_of_mem_splitSlashes hpart)
    (fun name hname => hstart name (List.mem_reverse.1 hname))
  rw [readPath_web]
  exact ⟨fun h => hwalk.ne_nil (List.reverse_eq_nil_iff.1 h),
    fun name hname => hwalk.normal name (List.mem_reverse.1 hname)⟩

theorem isNormalPath_readPathStart (port : Nat) (cs : List Char) :
    IsNormalPath (readPathStart (.web port) cs) := by
  have hnone : ∀ name ∈ ([] : List Segment), Segment.IsNormal name :=
    fun _ h => absurd h List.not_mem_nil
  unfold readPathStart
  split
  · exact ⟨by simp [Kind.isSpecial], by simpa [Kind.isSpecial] using isNormal_nil⟩
  · split_ifs
    · exact isNormalPath_readPath hnone _
    · exact isNormalPath_readPath hnone _

/-- A normal path that is written down is read as it was. -/
theorem readPathStart_segmentsText {names : List Segment} (h : IsNormalPath names) :
    readPathStart (.web port) (segmentsText names) = names := by
  obtain ⟨s, names, rfl⟩ := List.exists_cons_of_ne_nil h.ne_nil
  have hslash : isSlash (.web port) '/' = true := (isSlash_web port '/').2 (Or.inl rfl)
  show readPathStart (.web port) ('/' :: (s ++ segmentsText names)) = s :: names
  simp only [readPathStart, hslash, if_true, readPath_web, splitSlashes_segmentsText h.normal,
    List.reverse_nil, walkPath_of_isNormal [] h.normal, List.append_nil, List.reverse_reverse]

end LinkSurvey.Url
