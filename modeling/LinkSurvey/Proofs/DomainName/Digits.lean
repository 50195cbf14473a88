import LinkSurvey.DomainName.Punycode
import Mathlib.Data.List.Sort

/-!
How many digits a label takes. A number from 911 on has three digits at least, whatever the bias, and the numbers
that are written for a rising label grow with the distance of its characters and with those that are written
already. So a label of characters that lie far enough apart takes three digits for nearly each of them.
-/

namespace LinkSurvey.DomainName.Punycode

theorem one_le_length_digits (bias q k : Nat) : 1 ≤ (digits bias q k).length := by
  rw [digits]
  split <;> simp

theorem two_le_length_digits {bias q k : Nat} (h : 26 ≤ q) : 2 ≤ (digits bias q k).length := by
  have ht := threshold_le bias k
  have hrest := one_le_length_digits bias ((q - threshold bias k) / (36 - threshold bias k)) (k + 36)
  rw [digits, if_neg (by omega), List.length_cons]
  omega

theorem three_le_length_digits {bias q k : Nat} (h : 911 ≤ q) : 3 ≤ (digits bias q k).length := by
  have hlow := one_le_threshold bias k
  have hhigh := threshold_le bias k
  have hquotient : 26 ≤ (q - threshold bias k) / (36 - threshold bias k) := by
    rw [Nat.le_div_iff_mul_le (by omega)]
    omega
  have hrest : 2 ≤ (digits bias ((q - threshold bias k) / (36 - threshold bias k)) (k + 36)).length :=
    two_le_length_digits hquotient
  rw [digits, if_neg (by omega), List.length_cons]
  omega

/-- A label whose characters rise from `n` on, each by more than `gap`. -/
def Rises (gap : Nat) : Nat → List Char → Prop
  | _, [] => True
  | n, c :: cs => n + gap ≤ c.toNat ∧ Rises gap (c.toNat + 1) cs

theorem Rises.le_of_mem {gap n : Nat} {label : List Char} (h : Rises gap n label) :
    ∀ c ∈ label, n ≤ c.toNat := by
  induction label generalizing n with
  | nil => exact fun _ hc => absurd hc List.not_mem_nil
  | cons c label ih =>
      intro d hd
      rcases List.mem_cons.1 hd with rfl | hd
      · exact Nat.le_trans (Nat.le_add_right n gap) h.1
      · have hc := ih h.2 d hd
        have hfirst := h.1
        omega

theorem Rises.pairwise_lt {gap n : Nat} {label : List Char} (h : Rises gap n label) :
    (label.map Char.toNat).Pairwise (· < ·) := by
  induction label generalizing n with
  | nil => exact List.Pairwise.nil
  | cons c label ih =>
      rw [List.map_cons, List.pairwise_cons]
      refine ⟨fun m hm => ?_, ih h.2⟩
      obtain ⟨d, hd, rfl⟩ := List.mem_map.1 hm
      exact h.2.le_of_mem d hd

theorem toNat_ofNat_of_lt {n : Nat} (h : n < 0xD800) : (Char.ofNat n).toNat = n := by
  have hvalid : n.isValidChar := Or.inl h
  rw [Char.ofNat, dif_pos hvalid]
  rfl

/-- Characters in even steps rise. -/
theorem rises_range' {gap start count n : Nat} (hstart : n + gap ≤ start)
    (hend : start + (gap + 1) * count ≤ 0xD800) : Rises gap n ((List.range' start count (gap + 1)).map Char.ofNat) := by
  induction count generalizing start n with
  | zero => trivial
  | succ count ih =>
      rw [Nat.mul_succ] at hend
      have hfirst : (Char.ofNat start).toNat = start := toNat_ofNat_of_lt (by omega)
      rw [List.range'_succ, List.map_cons, Rises, hfirst]
      exact ⟨hstart, ih (by omega) (by omega)⟩

/-- A rising list has no repeats to lose. -/
theorem eraseDups_of_pairwise_lt {codes : List Nat} (h : codes.Pairwise (· < ·)) : codes.eraseDups = codes := by
  induction codes with
  | nil => rfl
  | cons m codes ih =>
      obtain ⟨hm, hcodes⟩ := List.pairwise_cons.1 h
      have hothers : codes.filter (fun n => !n == m) = codes := by
        refine List.filter_eq_self.2 fun n hn => ?_
        have hne : n ≠ m := Nat.ne_of_gt (hm n hn)
        simp [hne]
      rw [List.eraseDups_cons, hothers, ih hcodes]

/-- A walk steps over the smaller characters and writes the one that it is for. -/
theorem walk_append {m : Nat} {before after : List Char} {c : Char} (hbefore : ∀ d ∈ before, d.toNat < m)
    (hc : c.toNat = m) (hafter : ∀ d ∈ after, m < d.toNat) (p : Progress) :
    p.walk m (before ++ c :: after) =
      { delta := 0, bias := adapt (p.delta + before.length) (p.count + 1) p.first, count := p.count + 1,
        first := false, output := (digits p.bias (p.delta + before.length) 36).reverse ++ p.output } := by
  induction before generalizing p with
  | nil =>
      have hlast : ∀ q : Progress, q.walk m after = q := by
        intro q
        induction after with
        | nil => rfl
        | cons d after ih =>
            obtain ⟨hd, hrest⟩ := List.forall_mem_cons.1 hafter
            rw [Progress.walk, List.foldl_cons, if_neg (by omega), if_neg (by omega)]
            exact ih hrest
      rw [List.nil_append, Progress.walk, List.foldl_cons, if_neg (by omega), if_pos hc]
      exact hlast _
  | cons d before ih =>
      obtain ⟨hd, hrest⟩ := List.forall_mem_cons.1 hbefore
      rw [List.cons_append, Progress.walk, List.foldl_cons, if_pos hd, ← Progress.walk, ih hrest, List.length_cons]
      dsimp only
      rw [Nat.add_right_comm, Nat.add_assoc]

/-- From the character on for which the gap makes up 911, three digits are written for each. -/
theorem length_walks {gap few : Nat} (hfew : 911 ≤ gap * (few + 1)) {before label : List Char} {n : Nat}
    {p : Progress} (hcount : p.count = before.length) (hbefore : ∀ c ∈ before, c.toNat < n)
    (hlabel : Rises gap n label) (houtput : 3 * (before.length - few) ≤ p.output.length) :
    3 * ((before ++ label).length - few)
      ≤ (walks (before ++ label) n p (label.map Char.toNat)).output.length := by
  induction label generalizing before n p with
  | nil =>
      rw [List.append_nil]
      exact houtput
  | cons c label ih =>
      obtain ⟨hgap, hrest⟩ := hlabel
      have hsmaller : ∀ d ∈ before, d.toNat < c.toNat := fun d hd => by
        have hd := hbefore d hd
        omega
      have hlarger : ∀ d ∈ label, c.toNat < d.toNat := fun d hd => hrest.le_of_mem d hd
      have hwhole : before ++ c :: label = (before ++ [c]) ++ label := by simp
      rw [List.map_cons, walks, walk_append hsmaller rfl hlarger, hwhole]
      refine ih ?_ ?_ hrest ?_
      · rw [List.length_append, List.length_singleton, ← hcount]
      · intro d hd
        rcases List.mem_append.1 hd with hd | hd
        · exact Nat.lt_succ_of_lt (hsmaller d hd)
        · rw [List.mem_singleton.1 hd]
          exact Nat.lt_succ_self _
      · rw [List.length_append, List.length_singleton, List.length_append, List.length_reverse]
        dsimp only
        by_cases hlate : few ≤ before.length
        · have hnumber : 911 ≤ p.delta + (c.toNat - n) * (p.count + 1) + before.length := by
            have hgrown : gap * (few + 1) ≤ (c.toNat - n) * (p.count + 1) :=
              Nat.mul_le_mul (by omega) (by omega)
            omega
          have hdigits : 3 ≤ (digits p.bias (p.delta + (c.toNat - n) * (p.count + 1) + before.length) 36).length :=
            three_le_length_digits hnumber
          omega
        · omega

/-- A rising label takes three digits for each of its characters but the first few. -/
theorem length_encode {gap few : Nat} (hfew : 911 ≤ gap * (few + 1)) {label : List Char}
    (h : Rises gap 128 label) : 3 * (label.length - few) ≤ (encode label).length := by
  have hlarge := h.le_of_mem
  have hbasic : label.filter (·.toNat < 128) = [] := by
    refine List.filter_eq_nil_iff.2 fun c hc => ?_
    have hc := hlarge c hc
    simp only [decide_eq_true_eq]
    omega
  have hothers : label.filter (128 ≤ ·.toNat) = label :=
    List.filter_eq_self.2 fun c hc => decide_eq_true (hlarge c hc)
  have hcodes : (label.map Char.toNat).mergeSort.eraseDups = label.map Char.toNat := by
    have hsorted : (label.map Char.toNat).mergeSort = label.map Char.toNat := by
      refine List.mergeSort_of_pairwise (h.pairwise_lt.imp fun hlt => ?_)
      exact decide_eq_true (Nat.le_of_lt hlt)
    rw [hsorted, eraseDups_of_pairwise_lt h.pairwise_lt]
  have hwalks : 3 * (([] ++ label).length - few)
      ≤ (walks ([] ++ label) 128 { count := 0 } (label.map Char.toNat)).output.length :=
    length_walks hfew rfl (fun _ hc => absurd hc List.not_mem_nil) h (by simp)
  rw [encode, hbasic, hothers, hcodes]
  simpa using hwalks

end LinkSurvey.DomainName.Punycode
