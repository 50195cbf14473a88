import LinkSurvey.Url.Percent
import Mathlib.Tactic.SplitIfs

/-!
Percent-encoding leaves nothing to encode. An encoded byte is written with a `%` and two digits that no
component encodes again, so encoding a component a second time changes nothing; and since the digits are
upper-case, no encoded character looks like an encoded dot that was not there before.
-/

namespace LinkSurvey.Url

open Text

/-- The characters that encoded bytes are written with. -/
def encodingChars : List Char :=
  ['%', '0', '1', '2', '3', '4', '5', '6', '7', '8', '9', 'A', 'B', 'C', 'D', 'E', 'F']

theorem hexDigit_mem {n : Nat} (h : n < 16) : hexDigit n ∈ encodingChars := by
  have hall : ∀ n : Fin 16, hexDigit n ∈ encodingChars := by decide
  exact hall ⟨n, h⟩

theorem mem_percentByte {b : UInt8} {c : Char} (h : c ∈ percentByte b) : c ∈ encodingChars := by
  have hb := b.toNat_lt
  simp only [percentByte, List.mem_cons, List.not_mem_nil, or_false] at h
  rcases h with rfl | rfl | rfl
  · decide
  · exact hexDigit_mem (by omega)
  · exact hexDigit_mem (by omega)

/-- A set that does not hold any of the characters that encoded bytes are written with. -/
def IsStable (encoded : Char → Bool) : Prop :=
  ∀ c ∈ encodingChars, encoded c = false

instance (encoded : Char → Bool) : Decidable (IsStable encoded) :=
  List.decidableBAll (fun c => encoded c = false) encodingChars

/-- A text in which nothing is left to encode. -/
def Encoded (encoded : Char → Bool) (cs : List Char) : Prop :=
  ∀ c ∈ cs, c.toNat < 128 ∧ encoded c = false

theorem encoded_nil (encoded : Char → Bool) : Encoded encoded [] :=
  fun _ h => absurd h List.not_mem_nil

theorem Encoded.not_mem {encoded : Char → Bool} {cs : List Char} (h : Encoded encoded cs) {c : Char}
    (hc : encoded c = true) : c ∉ cs := by
  intro hmem
  rw [(h c hmem).2] at hc
  exact absurd hc (by decide)

theorem percentChar_of_kept {encoded : Char → Bool} {c : Char} (hascii : c.toNat < 128)
    (hkept : encoded c = false) : percentChar encoded c = [c] := by
  rw [percentChar, if_pos]
  simp [hascii, hkept]

theorem percentEncode_of_encoded {encoded : Char → Bool} {cs : List Char} (h : Encoded encoded cs) :
    percentEncode encoded cs = cs := by
  rw [percentEncode]
  induction cs with
  | nil => rfl
  | cons c cs ih =>
      obtain ⟨hc, hcs⟩ := List.forall_mem_cons.1 h
      rw [List.flatMap_cons, percentChar_of_kept hc.1 hc.2, ih hcs, List.singleton_append]

/-- A character of an encoded text was there before, or it belongs to an encoded byte. -/
theorem mem_percentEncode {encoded : Char → Bool} {cs : List Char} {c : Char}
    (h : c ∈ percentEncode encoded cs) :
    (c ∈ cs ∧ c.toNat < 128 ∧ encoded c = false) ∨ c ∈ encodingChars := by
  obtain ⟨d, hd, hc⟩ := List.mem_flatMap.1 h
  rw [percentChar] at hc
  split_ifs at hc with hkept
  · rw [List.mem_singleton] at hc
    rw [hc]
    simp only [Bool.and_eq_true, decide_eq_true_eq, Bool.not_eq_true'] at hkept
    exact Or.inl ⟨hd, hkept⟩
  · obtain ⟨b, -, hc⟩ := List.mem_flatMap.1 hc
    exact Or.inr (mem_percentByte hc)

theorem encoded_percentEncode {encoded : Char → Bool} (hstable : IsStable encoded) (cs : List Char) :
    Encoded encoded (percentEncode encoded cs) := by
  intro c hc
  rcases mem_percentEncode hc with ⟨-, h⟩ | h
  · exact h
  · refine ⟨?_, hstable c h⟩
    have hall : encodingChars.all (fun c => c.toNat < 128) = true := by decide
    exact of_decide_eq_true (List.all_eq_true.1 hall c h)

theorem not_mem_percentEncode {encoded : Char → Bool} {cs : List Char} {c : Char} (h : c ∉ cs)
    (hmark : c ∉ encodingChars) : c ∉ percentEncode encoded cs := by
  intro hc
  rcases mem_percentEncode hc with ⟨hmem, -⟩ | hmem
  · exact h hmem
  · exact hmark hmem

theorem isStable_inFragment : IsStable inFragment := by decide

theorem isStable_inSpecialQuery : IsStable inSpecialQuery := by decide

theorem isStable_inPath : IsStable inPath := by decide

theorem isStable_inUserinfo : IsStable inUserinfo := by decide

/-! ### What an encoded text starts with -/

/-- The encoding of a character is the character itself, or it is that of its bytes. -/
theorem percentChar_cases (encoded : Char → Bool) (c : Char) :
    (percentChar encoded c = [c]) ∨
      ∃ b bs, String.utf8EncodeChar c = b :: bs ∧ (c.toNat < 128 → encoded c = true) ∧
        percentChar encoded c = percentByte b ++ bs.flatMap percentByte := by
  rw [percentChar]
  split_ifs with hkept
  · exact Or.inl rfl
  · cases hbytes : String.utf8EncodeChar c with
    | nil => exact absurd hbytes String.utf8EncodeChar_ne_nil
    | cons b bs =>
        refine Or.inr ⟨b, bs, rfl, ?_, by rw [List.flatMap_cons]⟩
        intro hascii
        simpa [hascii] using hkept

theorem percentEncode_cons (encoded : Char → Bool) (c : Char) (cs : List Char) :
    percentEncode encoded (c :: cs) = percentChar encoded c ++ percentEncode encoded cs :=
  List.flatMap_cons

theorem eq_nil_of_percentEncode {encoded : Char → Bool} {cs : List Char}
    (h : percentEncode encoded cs = []) : cs = [] := by
  cases cs with
  | nil => rfl
  | cons c cs =>
      rw [percentEncode_cons, List.append_eq_nil_iff] at h
      rcases percentChar_cases encoded c with hself | ⟨b, bs, -, -, hbytes⟩
      · exact absurd (hself.symm.trans h.1) (by simp)
      · exact absurd (hbytes.symm.trans h.1) (by simp [percentByte])

/-- Only a character that stands for itself gives a text that does not start with a `%`. -/
theorem of_percentEncode_cons {encoded : Char → Bool} {cs text : List Char} {c : Char} (hc : c ≠ '%')
    (h : percentEncode encoded cs = c :: text) :
    ∃ rest, cs = c :: rest ∧ percentEncode encoded rest = text := by
  cases cs with
  | nil => exact absurd h (by simp [percentEncode])
  | cons d rest =>
      rw [percentEncode_cons] at h
      rcases percentChar_cases encoded d with hself | ⟨b, bs, -, -, hbytes⟩
      · rw [hself, List.singleton_append, List.cons.injEq] at h
        exact ⟨rest, by rw [h.1], h.2⟩
      · rw [hbytes, percentByte, List.cons_append, List.cons_append, List.cons.injEq] at h
        exact absurd h.1.symm hc

theorem hexDigit_eq_two {n : Nat} (hn : n < 16) (h : hexDigit n = '2') : n = 2 := by
  have hall : ∀ n : Fin 16, hexDigit n = '2' → n = 2 := by decide
  exact congrArg Fin.val (hall ⟨n, hn⟩ h)

theorem hexDigit_eq_e {n : Nat} (hn : n < 16) (h : hexDigit n = 'e' ∨ hexDigit n = 'E') : n = 14 := by
  have hall : ∀ n : Fin 16, hexDigit n = 'e' ∨ hexDigit n = 'E' → n = 14 := by decide
  exact congrArg Fin.val (hall ⟨n, hn⟩ h)

/-- Only an ASCII character is encoded by a byte of ASCII. -/
theorem toNat_of_utf8EncodeChar {c : Char} {b : UInt8} {bs : List UInt8}
    (h : String.utf8EncodeChar c = b :: bs) (hb : b.toNat < 128) : c.toNat = b.toNat := by
  simp only [String.utf8EncodeChar] at h
  split_ifs at h with hone <;> obtain ⟨hb', -⟩ := List.cons.inj h <;>
    rw [← hb', UInt8.toNat_ofNat'] at hb ⊢
  · show c.val.toNat = c.val.toNat % 2 ^ 8
    omega
  all_goals omega

/-- An encoded dot was there before, where the dot itself is not encoded. -/
theorem of_percentEncode_dot {encoded : Char → Bool} (hdot : encoded '.' = false) {cs text : List Char}
    {e : Char} (he : e = 'e' ∨ e = 'E') (h : percentEncode encoded cs = '%' :: '2' :: e :: text) :
    ∃ rest, cs = '%' :: '2' :: e :: rest ∧ percentEncode encoded rest = text := by
  cases cs with
  | nil => exact absurd h (by simp [percentEncode])
  | cons d rest =>
      rw [percentEncode_cons] at h
      rcases percentChar_cases encoded d with hself | ⟨b, bs, hutf8, hencoded, hbytes⟩
      · rw [hself, List.singleton_append, List.cons.injEq] at h
        obtain ⟨rest, rfl, h2⟩ := of_percentEncode_cons (by decide) h.2
        obtain ⟨rest, rfl, h3⟩ := of_percentEncode_cons (by rcases he with rfl | rfl <;> decide) h2
        exact ⟨rest, by rw [h.1], h3⟩
      · rw [hbytes, percentByte] at h
        simp only [List.cons_append, List.nil_append, List.cons.injEq] at h
        obtain ⟨-, htwo, he', -⟩ := h
        have hb := b.toNat_lt
        have hhigh : b.toNat / 16 = 2 := hexDigit_eq_two (by omega) htwo
        have hlow : b.toNat % 16 = 14 := hexDigit_eq_e (by omega) (by rw [he']; exact he)
        have hnat : d.toNat = 46 := by
          rw [toNat_of_utf8EncodeChar hutf8 (by omega)]
          omega
        have hd : d = '.' := by
          rw [← Char.ofNat_toNat d, hnat]
        rw [hd] at hencoded
        rw [hencoded (by decide)] at hdot
        exact absurd hdot (by decide)

end LinkSurvey.Url
