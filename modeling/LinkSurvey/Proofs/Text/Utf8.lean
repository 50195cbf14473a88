import LinkSurvey.Text.Utf8
import Mathlib.Data.List.Lex

/-!
UTF-8 keeps the order of texts: comparing the bytes of two texts is comparing the texts character by
character. The first byte of a character grows with the number of its bytes, and the digits to the base 64
that it and the bytes after it carry stand with the highest in front. Decoding the bytes of a text gives the
text again.
-/

namespace LinkSurvey.Text.Utf8

theorem toNat_lt (c : Char) : c.val.toNat < 1114112 := by
  have hvalid := c.valid
  simp only [UInt32.isValidChar, Nat.isValidChar] at hvalid
  omega

/-- The smaller of two characters has the smaller bytes, whatever follows them. -/
theorem utf8EncodeChar_append_lt {c d : Char} (h : c < d) (xs ys : List UInt8) :
    String.utf8EncodeChar c ++ xs < String.utf8EncodeChar d ++ ys := by
  have hlt : c.val.toNat < d.val.toNat := UInt32.lt_iff_toNat_lt.1 (Char.lt_def.1 h)
  have hmax := toNat_lt d
  -- Digit by digit, so that the remainders of one quotient are those of the next.
  have htwo (n : Nat) : n / 4096 = n / 64 / 64 := by omega
  have hthree (n : Nat) : n / 262144 = n / 64 / 64 / 64 := by omega
  simp only [String.utf8EncodeChar, htwo, hthree]
  generalize c.val.toNat = m at hlt
  generalize d.val.toNat = n at hlt hmax
  split_ifs
  all_goals
    simp only [List.cons_append, List.nil_append, List.cons_lt_cons_iff, UInt8.lt_iff_toNat_lt,
      ← UInt8.toNat_inj, UInt8.toNat_ofNat']
    simp (disch := omega) only [Nat.mod_eq_of_lt]
    omega

theorem nil_lt_utf8EncodeChar_append (c : Char) (xs : List UInt8) : [] < String.utf8EncodeChar c ++ xs := by
  simp only [String.utf8EncodeChar]
  split_ifs <;> exact List.nil_lt_cons _ _

theorem encode_lt_encode {a b : List Char} (h : a < b) : encode a < encode b := by
  induction a generalizing b with
  | nil =>
      cases b with
      | nil => exact absurd h (List.not_lt_nil [])
      | cons d b => exact nil_lt_utf8EncodeChar_append d _
  | cons c a ih =>
      cases b with
      | nil => exact absurd h (List.not_lt_nil _)
      | cons d b =>
          rcases List.cons_lt_cons_iff.1 h with hlt | ⟨rfl, hrest⟩
          · exact utf8EncodeChar_append_lt hlt _ _
          · exact List.append_left_lt (ih hrest)

/-! ### Decoding -/

/-- A byte that belongs to the character that has begun. -/
theorem decodeFrom_cons_of_mem {count : Nat} {low high b : UInt8} {bits : Nat} (hcount : 0 < count)
    (hlow : low.toNat ≤ b.toNat) (hhigh : b.toNat ≤ high.toNat) (bs : List UInt8) :
    decodeFrom count low high bits (b :: bs) =
      if count = 1 then some (Char.ofNat (bits * 64 + (b.toNat - 0x80))) :: decodeFrom 0 0 0 0 bs
      else decodeFrom (count - 1) 0x80 0xBF (bits * 64 + (b.toNat - 0x80)) bs := by
  rw [decodeFrom, if_pos ⟨hcount, UInt8.le_iff_toNat_le.2 hlow, UInt8.le_iff_toNat_le.2 hhigh⟩]

/-- The first byte of a character of several. -/
theorem decodeFrom_cons_of_more {b : UInt8} {count : Nat} {low high : UInt8} {bits : Nat}
    (h : Lead.of b = .more count low high bits) (bs : List UInt8) :
    decodeFrom 0 0 0 0 (b :: bs) = decodeFrom count low high bits bs := by
  rw [decodeFrom, if_neg (by simp), h]
  rfl

theorem toNat_byte {n : Nat} (h : n < 256) : (UInt8.ofNat n).toNat = n := by
  rw [UInt8.toNat_ofNat']
  exact Nat.mod_eq_of_lt h

/-- No character is one half of a pair of UTF-16. -/
theorem not_surrogate (c : Char) : c.val.toNat < 0xD800 ∨ 0xDFFF < c.val.toNat := by
  have hvalid := c.valid
  simp only [UInt32.isValidChar, Nat.isValidChar] at hvalid
  omega

/-- The bytes in the middle of a character, and the bounds that some first bytes set to the second one. -/
theorem toNat_bounds :
    (0x80 : UInt8).toNat = 128 ∧ (0x8F : UInt8).toNat = 143 ∧ (0x90 : UInt8).toNat = 144
      ∧ (0x9F : UInt8).toNat = 159 ∧ (0xA0 : UInt8).toNat = 160 ∧ (0xBF : UInt8).toNat = 191 :=
  ⟨rfl, rfl, rfl, rfl, rfl, rfl⟩

/-! The bytes of a character, by their number. -/

theorem decodeFrom_one {v : Nat} (h : v < 0x80) (bs : List UInt8) :
    decodeFrom 0 0 0 0 (UInt8.ofNat v :: bs) = some (Char.ofNat v) :: decodeFrom 0 0 0 0 bs := by
  have hlead : Lead.of (UInt8.ofNat v) = .ascii (Char.ofNat v) := by
    rw [Lead.of, toNat_byte (by omega)]
    exact if_pos h
  rw [decodeFrom, if_neg (by simp), hlead]
  rfl

theorem decodeFrom_two {v : Nat} (hlow : 0x80 ≤ v) (hhigh : v < 0x800) (bs : List UInt8) :
    decodeFrom 0 0 0 0 (UInt8.ofNat (v / 64 % 32 + 192) :: UInt8.ofNat (v % 64 + 128) :: bs)
      = some (Char.ofNat v) :: decodeFrom 0 0 0 0 bs := by
  obtain ⟨h80, -, -, -, -, hBF⟩ := toNat_bounds
  have hlead : Lead.of (UInt8.ofNat (v / 64 % 32 + 192)) = .more 1 0x80 0xBF (v / 64) := by
    have hbits : v / 64 % 32 + 192 - 0xC0 = v / 64 := by omega
    rw [Lead.of, toNat_byte (by omega)]
    simp only [hbits]
    rw [if_neg (by omega), if_neg (by omega), if_pos (by omega)]
  have hbyte := toNat_byte (n := v % 64 + 128) (by omega)
  have hvalue : v / 64 * 64 + (v % 64 + 128 - 0x80) = v := by omega
  rw [decodeFrom_cons_of_more hlead, decodeFrom_cons_of_mem (by decide) (by omega) (by omega), if_pos rfl, hbyte,
    hvalue]

theorem decodeFrom_three {v : Nat} (hlow : 0x800 ≤ v) (hhigh : v < 0x10000)
    (hsurrogate : v < 0xD800 ∨ 0xDFFF < v) (bs : List UInt8) :
    decodeFrom 0 0 0 0 (UInt8.ofNat (v / 4096 % 16 + 224) :: UInt8.ofNat (v / 64 % 64 + 128)
        :: UInt8.ofNat (v % 64 + 128) :: bs)
      = some (Char.ofNat v) :: decodeFrom 0 0 0 0 bs := by
  obtain ⟨h80, -, -, h9F, hA0, hBF⟩ := toNat_bounds
  obtain ⟨low, high, hlead, hlowest, hhighest⟩ : ∃ low high : UInt8,
      Lead.of (UInt8.ofNat (v / 4096 % 16 + 224)) = .more 2 low high (v / 4096)
        ∧ low.toNat ≤ v / 64 % 64 + 128 ∧ v / 64 % 64 + 128 ≤ high.toNat := by
    have hbits : v / 4096 % 16 + 224 - 0xE0 = v / 4096 := by omega
    rw [Lead.of, toNat_byte (by omega)]
    simp only [hbits]
    rw [if_neg (by omega), if_neg (by omega), if_neg (by omega)]
    by_cases hfirst : v / 4096 % 16 + 224 = 0xE0
    · have hzero : v / 4096 = 0 := by omega
      rw [if_pos hfirst, hzero]
      exact ⟨_, _, rfl, by omega, by omega⟩
    · rw [if_neg hfirst]
      by_cases hpair : v / 4096 % 16 + 224 = 0xED
      · have hthirteen : v / 4096 = 0xD := by omega
        rw [if_pos hpair, hthirteen]
        exact ⟨_, _, rfl, by omega, by omega⟩
      · rw [if_neg hpair, if_pos (by omega)]
        exact ⟨_, _, rfl, by omega, by omega⟩
  have hsecond := toNat_byte (n := v / 64 % 64 + 128) (by omega)
  have hthird := toNat_byte (n := v % 64 + 128) (by omega)
  have hvalue : (v / 4096 * 64 + (v / 64 % 64 + 128 - 0x80)) * 64 + (v % 64 + 128 - 0x80) = v := by omega
  rw [decodeFrom_cons_of_more hlead, decodeFrom_cons_of_mem (by decide) (by omega) (by omega),
    if_neg (by decide), decodeFrom_cons_of_mem (by decide) (by omega) (by omega), if_pos rfl, hsecond, hthird,
    hvalue]

theorem decodeFrom_four {v : Nat} (hlow : 0x10000 ≤ v) (hhigh : v < 0x110000) (bs : List UInt8) :
    decodeFrom 0 0 0 0 (UInt8.ofNat (v / 262144 % 8 + 240) :: UInt8.ofNat (v / 4096 % 64 + 128)
        :: UInt8.ofNat (v / 64 % 64 + 128) :: UInt8.ofNat (v % 64 + 128) :: bs)
      = some (Char.ofNat v) :: decodeFrom 0 0 0 0 bs := by
  obtain ⟨h80, h8F, h90, -, -, hBF⟩ := toNat_bounds
  obtain ⟨low, high, hlead, hlowest, hhighest⟩ : ∃ low high : UInt8,
      Lead.of (UInt8.ofNat (v / 262144 % 8 + 240)) = .more 3 low high (v / 262144)
        ∧ low.toNat ≤ v / 4096 % 64 + 128 ∧ v / 4096 % 64 + 128 ≤ high.toNat := by
    have hbits : v / 262144 % 8 + 240 - 0xF0 = v / 262144 := by omega
    rw [Lead.of, toNat_byte (by omega)]
    simp only [hbits]
    rw [if_neg (by omega), if_neg (by omega), if_neg (by omega), if_neg (by omega), if_neg (by omega),
      if_neg (by omega)]
    by_cases hfirst : v / 262144 % 8 + 240 = 0xF0
    · have hzero : v / 262144 = 0 := by omega
      rw [if_pos hfirst, hzero]
      exact ⟨_, _, rfl, by omega, by omega⟩
    · rw [if_neg hfirst]
      by_cases hlast : v / 262144 % 8 + 240 < 0xF4
      · rw [if_pos hlast]
        exact ⟨_, _, rfl, by omega, by omega⟩
      · have hfour : v / 262144 = 4 := by omega
        rw [if_neg hlast, if_pos (by omega), hfour]
        exact ⟨_, _, rfl, by omega, by omega⟩
  have hsecond := toNat_byte (n := v / 4096 % 64 + 128) (by omega)
  have hthird := toNat_byte (n := v / 64 % 64 + 128) (by omega)
  have hfourth := toNat_byte (n := v % 64 + 128) (by omega)
  have hvalue : ((v / 262144 * 64 + (v / 4096 % 64 + 128 - 0x80)) * 64 + (v / 64 % 64 + 128 - 0x80)) * 64
      + (v % 64 + 128 - 0x80) = v := by omega
  rw [decodeFrom_cons_of_more hlead, decodeFrom_cons_of_mem (by decide) (by omega) (by omega),
    if_neg (by decide), decodeFrom_cons_of_mem (by decide) (by omega) (by omega), if_neg (by decide),
    decodeFrom_cons_of_mem (by decide) (by omega) (by omega), if_pos rfl, hsecond, hthird, hfourth, hvalue]

theorem decodeFrom_utf8EncodeChar (c : Char) (bs : List UInt8) :
    decodeFrom 0 0 0 0 (String.utf8EncodeChar c ++ bs) = some c :: decodeFrom 0 0 0 0 bs := by
  have hchar : Char.ofNat c.val.toNat = c := Char.ofNat_toNat c
  have hmax := toNat_lt c
  have hsurrogate := not_surrogate c
  simp only [String.utf8EncodeChar]
  split_ifs with hone htwo hthree
  · exact (decodeFrom_one (by omega) bs).trans (by rw [hchar])
  · exact (decodeFrom_two (by omega) (by omega) bs).trans (by rw [hchar])
  · exact (decodeFrom_three (by omega) (by omega) hsurrogate bs).trans (by rw [hchar])
  · exact (decodeFrom_four (by omega) hmax bs).trans (by rw [hchar])

/-- A text is decoded from its bytes. -/
theorem decode?_encode (cs : List Char) : decode? (encode cs) = some cs := by
  have hdecode : decode (encode cs) = cs.map some := by
    rw [decode, encode]
    induction cs with
    | nil => rfl
    | cons c cs ih => rw [List.flatMap_cons, decodeFrom_utf8EncodeChar, ih, List.map_cons]
  rw [decode?, hdecode]
  clear hdecode
  induction cs with
  | nil => rfl
  | cons c cs ih =>
      rw [List.map_cons, List.mapM_cons, ih]
      rfl

end LinkSurvey.Text.Utf8
