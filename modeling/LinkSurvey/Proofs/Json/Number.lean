import LinkSurvey.Proofs.Json

/-!
The numbers of a document are written as numbers are. That is plain for natural numbers; for binary ones it
hangs on the digits not starting with a zero where zeros are filled in behind them. Zero itself is no decimal
that rounds to any other number, so the digits that are found for a number other than zero are those of a number
other than zero.
-/

namespace LinkSurvey

namespace Decimal

theorem num_shift_pos {r : Ratio} (h : 0 < r.num) (e : Int) : 0 < (r.shift e).num :=
  Nat.mul_pos h (Nat.pow_pos (by decide))

theorem num_ofBinary_pos {m : Nat} (h : 0 < m) (e : Int) : 0 < (Ratio.ofBinary m e).num :=
  Nat.mul_pos h (Nat.pow_pos (by decide))

/-- Zero does not round to a number other than zero. -/
theorem Binary.hits_zero {b : Binary} (h : 0 < b.significand) (e : Int) : b.hits e 0 = false := by
  have hnarrow : 0 < ((Ratio.ofBinary (4 * b.significand - 1) (b.exponent - 2)).shift e).num :=
    num_shift_pos (num_ofBinary_pos (by omega) _) e
  have hwide : 0 < ((Ratio.ofBinary (2 * b.significand - 1) (b.exponent - 1)).shift e).num :=
    num_shift_pos (num_ofBinary_pos (by omega) _) e
  have hlower : ∀ lower : Ratio, 0 < lower.num → ¬lower.num ≤ 0 * lower.den ∧ ¬lower.num < 0 * lower.den := by
    intro lower hpos
    omega
  rw [hits]
  cases b.narrowBelow <;> simp_all

/-- A multiple that rounds to a number is not zero, unless the number is. -/
theorem Binary.pos_of_onGrid? {b : Binary} (h : 0 < b.significand) {e : Int} {n : Nat} (hn : b.onGrid? e = some n) :
    0 < n := by
  have hzero : ∀ n, b.hits e n = true → 0 < n := by
    intro n hhits
    refine Nat.pos_of_ne_zero ?_
    rintro rfl
    rw [hits_zero h e] at hhits
    cases hhits
  simp only [onGrid?] at hn
  split at hn
  · rename_i hbelow habove
    have hpos := hzero _ hbelow
    rw [← Option.some.inj hn]
    split_ifs <;> omega
  · rename_i hbelow _
    rw [← Option.some.inj hn]
    exact hzero _ hbelow
  · rw [← Option.some.inj hn]
    exact Nat.succ_pos _
  · cases hn

theorem Scientific.digits_ofNat_pos {n : Nat} (h : 0 < n) (e : Int) : 0 < (ofNat n e).digits := by
  induction n using Nat.strongRecOn generalizing e with
  | ind n ih =>
      rw [ofNat]
      split_ifs with hzero
      · exact ih (n / 10) (by omega) (by omega) (e + 1)
      · exact h

/-- Digits are found that do not start with a zero, or there is nothing but zero. -/
theorem Binary.shortest_cases (b : Binary) : 0 < b.shortest.digits ∨ b.shortest = ⟨0, 0⟩ := by
  rw [shortest]
  split_ifs with hsignificand
  · exact Or.inr rfl
  · dsimp only
    generalize hfound : (List.range 17).findSome? _ = found
    cases found with
    | none => exact Or.inr rfl
    | some s =>
        obtain ⟨k, -, hk⟩ := List.exists_of_findSome?_eq_some hfound
        obtain ⟨n, hn, rfl⟩ := Option.map_eq_some_iff.1 hk
        have hpos := pos_of_onGrid? (Nat.pos_of_ne_zero hsignificand) hn
        exact Or.inl (Scientific.digits_ofNat_pos hpos _)

end Decimal

namespace Json

open Decimal

theorem isDigits_toDigits (n : Nat) : IsDigits (Nat.toDigits 10 n) :=
  ⟨Nat.toDigits_ne_nil, fun _ hc => Nat.isDigit_of_mem_toDigits (by decide) (by decide) hc⟩

theorem isDigits_append {cs ds : List Char} (hcs : IsDigits cs) (hds : ∀ c ∈ ds, c.isDigit = true) :
    IsDigits (cs ++ ds) := by
  refine ⟨fun h => hcs.ne_nil (List.append_eq_nil_iff.1 h).1, fun c hc => ?_⟩
  rcases List.mem_append.1 hc with hc | hc
  · exact hcs.digits c hc
  · exact hds c hc

theorem isDigit_of_mem_zeros {n : Nat} {c : Char} (hc : c ∈ List.replicate n '0') : c.isDigit = true := by
  rw [List.eq_of_mem_replicate hc]
  decide

/-- Only the digits of zero start with a zero. -/
theorem head?_toDigits {n : Nat} (h : 0 < n) : (Nat.toDigits 10 n).head? ≠ some '0' := by
  intro hhead
  obtain ⟨cs, hcs⟩ := List.head?_eq_some_iff.1 hhead
  have hzero : Nat.toDigits 10 0 = ['0'] := rfl
  rw [Url.digitsOf_leading_zero hcs, ← hzero] at hcs
  have hvalue := congrArg (fun digits => Nat.ofDigitChars 10 digits 0) hcs
  simp only [Nat.ofDigitChars_toDigits (b := 10) (by decide) (by decide)] at hvalue
  omega

theorem isNumber_toDigits (n : Nat) : IsNumber (Nat.toDigits 10 n) := by
  have hwhole : IsWhole (Nat.toDigits 10 n) := by
    cases n with
    | zero => exact .zero
    | succ n => exact .digits (isDigits_toDigits _) (head?_toDigits (Nat.succ_pos n))
  have hnumber := IsNumber.positive (.intro hwhole .absent .absent)
  rw [List.append_nil, List.append_nil] at hnumber
  exact hnumber

theorem isProper_ofNat (n : Nat) : IsProper (.ofNat n) :=
  .number (isNumber_toDigits n)

section Digits

variable {digits : List Char} (hdigits : IsDigits digits) (hzero : digits.head? ≠ some '0')
include hdigits hzero

theorem isMagnitude_positional (n : Int) : IsMagnitude (positional digits n) := by
  rw [positional]
  split_ifs with hsmall hlarge
  · have hfraction : IsDigits (List.replicate (-n).toNat '0' ++ digits) := by
      refine ⟨fun h => hdigits.ne_nil (List.append_eq_nil_iff.1 h).2, fun c hc => ?_⟩
      rcases List.mem_append.1 hc with hc | hc
      · exact isDigit_of_mem_zeros hc
      · exact hdigits.digits c hc
    have hmagnitude := IsMagnitude.intro .zero (.digits hfraction) .absent
    simpa using hmagnitude
  · have hwhole : IsWhole (digits ++ List.replicate (n.toNat - digits.length) '0') := by
      refine .digits (isDigits_append hdigits fun c hc => isDigit_of_mem_zeros hc) ?_
      rw [List.head?_append_of_ne_nil _ hdigits.ne_nil]
      exact hzero
    have hmagnitude := IsMagnitude.intro hwhole (.digits (isDigits_toDigits 0)) .absent
    simpa using hmagnitude
  · obtain ⟨k, hk⟩ : ∃ k, n.toNat = k + 1 := ⟨n.toNat - 1, by omega⟩
    have hfront : IsDigits (digits.take n.toNat) := by
      refine ⟨?_, fun c hc => hdigits.digits c (List.mem_of_mem_take hc)⟩
      rw [ne_eq, List.take_eq_nil_iff, not_or]
      exact ⟨by omega, hdigits.ne_nil⟩
    have hback : IsDigits (digits.drop n.toNat) := by
      refine ⟨?_, fun c hc => hdigits.digits c (List.mem_of_mem_drop hc)⟩
      rw [ne_eq, List.drop_eq_nil_iff]
      omega
    have hwhole : IsWhole (digits.take n.toNat) := by
      refine .digits hfront ?_
      rw [hk, List.head?_take, if_neg (Nat.succ_ne_zero k)]
      exact hzero
    have hmagnitude := IsMagnitude.intro hwhole (.digits hback) .absent
    simpa using hmagnitude

theorem isMagnitude_exponential (e : Int) : IsMagnitude (exponential digits e) := by
  obtain ⟨c, cs, rfl⟩ := List.exists_cons_of_ne_nil hdigits.ne_nil
  obtain ⟨hc, hcs⟩ := List.forall_mem_cons.1 hdigits.digits
  have hwhole : IsWhole [c] := .digits ⟨List.cons_ne_nil c [], by simpa using hc⟩ hzero
  have hfraction : IsFraction (if (c :: cs).length ≤ 1 then [] else '.' :: (c :: cs).drop 1) := by
    split_ifs with hsingle
    · exact .absent
    · refine .digits ⟨?_, hcs⟩
      rintro rfl
      exact hsingle (Nat.le_refl 1)
  have hexponent : ∀ sign : Char, sign = '+' ∨ sign = '-' →
      IsExponent ('e' :: sign :: Nat.toDigits 10 e.natAbs) :=
    fun sign hsign => .digits hsign (isDigits_toDigits _)
  rw [exponential]
  generalize (if (c :: cs).length ≤ 1 then [] else '.' :: (c :: cs).drop 1) = fraction at hfraction ⊢
  split_ifs
  · have hmagnitude := IsMagnitude.intro hwhole hfraction (hexponent '-' (Or.inr rfl))
    simpa using hmagnitude
  · have hmagnitude := IsMagnitude.intro hwhole hfraction (hexponent '+' (Or.inl rfl))
    simpa using hmagnitude

end Digits

theorem isProper_ofBinary (b : Binary) : IsProper (.ofBinary b) := by
  have hsigned : ∀ cs, IsMagnitude cs → IsNumber ((if b.negative then ['-'] else []) ++ cs) := by
    intro cs hcs
    split_ifs
    · exact .negative hcs
    · exact .positive hcs
  rw [ofBinary]
  refine .number (hsigned _ ?_)
  rcases b.shortest_cases with hpos | hzero
  · have hdigits := isDigits_toDigits b.shortest.digits
    have hhead := head?_toDigits hpos
    split_ifs
    · exact isMagnitude_positional hdigits hhead _
    · exact isMagnitude_exponential hdigits hhead _
  · have hmagnitude : IsMagnitude ['0', '.', '0'] := .intro .zero (.digits (isDigits_toDigits 0)) .absent
    rw [hzero]
    exact hmagnitude

theorem isProper_ofFloat (x : Float) : IsProper (.ofFloat x) := by
  rw [ofFloat]
  split_ifs
  · exact isProper_ofBinary _
  · exact .null

end Json

end LinkSurvey
