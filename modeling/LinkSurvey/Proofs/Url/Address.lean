import LinkSurvey.Proofs.DomainName
import LinkSurvey.Url.Host
import Mathlib.Tactic.SplitIfs

/-!
Addresses are read as they are written: an IPv4 address from its four numbers, an IPv6 address from its
pieces, with the longest run of zeros left out. A run is left out only if it is longer than one piece, so
what stands beside the double colon is shorter than the address by at least two pieces.
-/

namespace LinkSurvey.Url

open DomainName (splitOn join)

/-! ### Numbers -/

theorem hexValue?_digitChar {d : Nat} (h : d < 16) : hexValue? d.digitChar = some d := by
  have hall : ∀ d : Fin 16, hexValue? (Nat.digitChar d) = some d.val := by decide
  exact hall ⟨d, h⟩

theorem number?_append_digit {base d n : Nat} (hbase : base ≤ 16) (hd : d < base) {cs : List Char}
    (h : number? base cs = some n) : number? base (cs ++ [d.digitChar]) = some (n * base + d) := by
  rw [number?] at h
  simp only [number?, List.foldl_append, List.foldl_cons, List.foldl_nil, h,
    hexValue?_digitChar (Nat.lt_of_lt_of_le hd hbase), if_pos hd]

theorem number?_digitsOf (base : Nat) (hone : 1 < base) (hbase : base ≤ 16) (n : Nat) :
    number? base (digitsOf base n) = some n := by
  have hnone : number? base [] = some 0 := rfl
  induction n using Nat.strongRecOn with
  | ind n ih =>
      rw [digitsOf, Nat.toDigits_eq_if hone]
      split_ifs with hn
      · have hdigit := number?_append_digit hbase hn hnone
        rw [Nat.zero_mul, Nat.zero_add] at hdigit
        exact hdigit
      · have hsmaller : n / base < n := Nat.div_lt_self (by omega) hone
        have hdigit := number?_append_digit hbase (Nat.mod_lt n (by omega)) (ih (n / base) hsmaller)
        rw [Nat.mul_comm, Nat.div_add_mod] at hdigit
        exact hdigit

theorem number?_cons_of_none {c : Char} (h : hexValue? c = none) (base : Nat) (cs : List Char) :
    number? base (c :: cs) = none := by
  rw [number?, List.foldl_cons, h]
  induction cs with
  | nil => rfl
  | cons d cs ih => exact ih

/-- The digits that numbers are written with, of any base up to sixteen. -/
def numerals : List Char :=
  ['0', '1', '2', '3', '4', '5', '6', '7', '8', '9', 'a', 'b', 'c', 'd', 'e', 'f']

theorem mem_numerals_of_mem_digitsOf {base n : Nat} (hone : 1 < base) (hbase : base ≤ 16) {c : Char}
    (hc : c ∈ digitsOf base n) : c ∈ numerals := by
  have hall : ∀ d : Fin 16, Nat.digitChar d ∈ numerals := by decide
  induction n using Nat.strongRecOn with
  | ind n ih =>
      rw [digitsOf, Nat.toDigits_eq_if hone] at hc
      split_ifs at hc with hn
      · rw [List.mem_singleton] at hc
        rw [hc]
        exact hall ⟨n, by omega⟩
      · rcases List.mem_append.1 hc with hc | hc
        · exact ih (n / base) (Nat.div_lt_self (by omega) hone) hc
        · have hlt := Nat.mod_lt n (show 0 < base by omega)
          rw [List.mem_singleton] at hc
          rw [hc]
          exact hall ⟨n % base, by omega⟩

theorem isDigit_of_mem_digitsOf {n : Nat} {c : Char} (hc : c ∈ digitsOf 10 n) : c.isDigit = true :=
  Nat.isDigit_of_mem_toDigits (by decide) (by decide) hc

theorem digitsOf_ne_nil (base n : Nat) : digitsOf base n ≠ [] :=
  Nat.toDigits_ne_nil

/-- Only zero is written with a zero in front. -/
theorem digitsOf_leading_zero {n : Nat} {cs : List Char} (h : digitsOf 10 n = '0' :: cs) : cs = [] := by
  induction n using Nat.strongRecOn generalizing cs with
  | ind n ih =>
      rw [digitsOf, Nat.toDigits_eq_if (by decide)] at h
      split_ifs at h with hn
      · exact (List.cons.inj h).2.symm
      · obtain ⟨c, rest, hrest⟩ := List.exists_cons_of_ne_nil (digitsOf_ne_nil 10 (n / 10))
        have hhead := hrest
        rw [digitsOf] at hhead
        rw [hhead, List.cons_append, List.cons.injEq] at h
        rw [h.1] at hrest
        have hnil := ih (n / 10) (Nat.div_lt_self (by omega) (by decide)) hrest
        rw [hnil] at hrest
        have hvalue := number?_digitsOf 10 (by decide) (by decide) (n / 10)
        rw [hrest] at hvalue
        have hzero : n / 10 = 0 := (Option.some.inj hvalue).symm
        omega

/-! ### IPv4 -/

theorem ipv4Part?_digitsOf (n : Nat) : ipv4Part? (digitsOf 10 n) = some n := by
  have hnumber := number?_digitsOf 10 (by decide) (by decide) n
  have hdigit : ∀ c ∈ digitsOf 10 n, c.isDigit = true := fun c hc => isDigit_of_mem_digitsOf hc
  unfold ipv4Part?
  split
  · rename_i h
    exact absurd h (digitsOf_ne_nil 10 n)
  · rename_i h
    exact absurd (digitsOf_leading_zero h) (by simp)
  · rename_i h
    exact absurd (digitsOf_leading_zero h) (by simp)
  · rename_i h
    exact absurd (digitsOf_leading_zero h) (by simp)
  · exact hnumber

/-- The four numbers of an address. -/
def ipv4Bytes (address : UInt32) : List Nat :=
  [address.toNat / 16777216, address.toNat / 65536 % 256, address.toNat / 256 % 256, address.toNat % 256]

theorem splitOn_ipv4Text (address : UInt32) :
    splitOn '.' (ipv4Text address) = (ipv4Bytes address).map (digitsOf 10) := by
  refine DomainName.splitOn_join (by simp) ?_
  intro part hpart hdot
  obtain ⟨n, -, rfl⟩ := List.mem_map.1 hpart
  exact absurd (isDigit_of_mem_digitsOf hdot) (by decide)

theorem dottedParts_ipv4Text (address : UInt32) :
    dottedParts (ipv4Text address) = (ipv4Bytes address).map (digitsOf 10) := by
  have hlast : ((ipv4Bytes address).map (digitsOf 10)).getLast? ≠ some [] := by
    simp [ipv4Bytes, digitsOf]
  simp only [dottedParts, splitOn_ipv4Text, if_neg hlast]

theorem endsInNumber_ipv4Text (address : UInt32) : endsInNumber (ipv4Text address) = true := by
  have hlast : (dottedParts (ipv4Text address)).getLast? = some (digitsOf 10 (address.toNat % 256)) := by
    rw [dottedParts_ipv4Text]
    rfl
  rw [endsInNumber, hlast]
  simp [ipv4Part?_digitsOf]

theorem ipv4?_of_numbers {cs : List Char} {a b c d : Nat} (hlength : (dottedParts cs).length = 4)
    (hnumbers : (dottedParts cs).mapM ipv4Part? = some [a, b, c, d]) (ha : a ≤ 255) (hb : b ≤ 255)
    (hc : c ≤ 255) (hd : d < 256) :
    ipv4? cs = some (UInt32.ofNat (((a * 256 + b) * 256 + c) * 256 + d)) := by
  have hlast : d < Nat.pow 256 1 := hd
  rw [ipv4?]
  simp [hlength, hnumbers, ha, hb, hc, hlast]

theorem ipv4?_ipv4Text (address : UInt32) : ipv4? (ipv4Text address) = some address := by
  have hlt := address.toNat_lt
  have hnumbers : (dottedParts (ipv4Text address)).mapM ipv4Part? = some (ipv4Bytes address) := by
    rw [dottedParts_ipv4Text]
    simp [ipv4Bytes, ipv4Part?_digitsOf]
  have hlength : (dottedParts (ipv4Text address)).length = 4 := by
    rw [dottedParts_ipv4Text]
    rfl
  have hvalue : ((address.toNat / 16777216 * 256 + address.toNat / 65536 % 256) * 256
      + address.toNat / 256 % 256) * 256 + address.toNat % 256 = address.toNat := by omega
  rw [ipv4?_of_numbers hlength hnumbers (by omega) (by omega) (by omega) (by omega), hvalue,
    UInt32.ofNat_toNat]

/-! ### IPv6 -/

theorem ipv6Piece?_digitsOf (p : UInt16) : ipv6Piece? (digitsOf 16 p.toNat) = some p.toNat := by
  have hlength : (digitsOf 16 p.toNat).length ≤ 4 :=
    (Nat.length_toDigits_le_iff (by decide) (by decide)).2 p.toNat_lt
  rw [ipv6Piece?, number?_digitsOf 16 (by decide) (by decide)]
  simp [digitsOf_ne_nil, hlength]

theorem ipv6Pieces?_map (final : Bool) (ps : List UInt16) :
    ipv6Pieces? final (ps.map fun p => digitsOf 16 p.toNat) = some (ps.map UInt16.toNat) := by
  induction ps with
  | nil => rfl
  | cons p rest ih =>
      cases rest with
      | nil => simp [ipv6Pieces?, ipv6Piece?_digitsOf]
      | cons q qs =>
          rw [List.map_cons] at ih
          rw [List.map_cons, List.map_cons, ipv6Pieces?, ih, ipv6Piece?_digitsOf]
          · rfl
          · simp

theorem not_mem_colon_digitsOf (n : Nat) : ':' ∉ digitsOf 16 n := by
  intro hc
  exact absurd (mem_numerals_of_mem_digitsOf (by decide) (by decide) hc) (by decide)

theorem splitOn_piecesText {ps : List UInt16} (hne : ps ≠ []) :
    splitOn ':' (piecesText ps) = ps.map fun p => digitsOf 16 p.toNat := by
  refine DomainName.splitOn_join (by simpa using hne) ?_
  intro part hpart
  obtain ⟨p, -, rfl⟩ := List.mem_map.1 hpart
  exact not_mem_colon_digitsOf p.toNat

/-- What is written of some pieces starts with a digit. -/
theorem piecesText_cons_eq (p : UInt16) (ps : List UInt16) :
    ∃ c cs, piecesText (p :: ps) = c :: cs ∧ c ≠ ':' := by
  obtain ⟨c, cs, hcs⟩ := List.exists_cons_of_ne_nil (digitsOf_ne_nil 16 p.toNat)
  have hc : c ≠ ':' := by
    intro hc
    exact not_mem_colon_digitsOf p.toNat (by rw [hcs, hc]; exact List.mem_cons_self)
  cases ps with
  | nil => exact ⟨c, cs, hcs, hc⟩
  | cons q qs =>
      refine ⟨c, cs ++ ':' :: piecesText (q :: qs), ?_, hc⟩
      show digitsOf 16 p.toNat ++ ':' :: piecesText (q :: qs) = _
      rw [hcs, List.cons_append]

theorem sidePieces?_piecesText (final : Bool) (ps : List UInt16) :
    sidePieces? final (piecesText ps) = some (ps.map UInt16.toNat) := by
  cases ps with
  | nil => rfl
  | cons p ps =>
      obtain ⟨c, cs, hcs, -⟩ := piecesText_cons_eq p ps
      have hsome : (piecesText (p :: ps)).isEmpty = false := by rw [hcs]; rfl
      rw [sidePieces?, hsome, splitOn_piecesText (by simp), ipv6Pieces?_map]
      rfl

/-- A double colon is looked for only where a colon is followed by another. -/
theorem splitDouble_cons {c : Char} {rest : List Char} (h : c = ':' → rest.head? ≠ some ':') :
    splitDouble (c :: rest) = (splitDouble rest).map fun p => (c :: p.1, p.2) := by
  rw [splitDouble]
  intro tail hc hrest
  exact h hc (by rw [hrest]; rfl)

theorem splitDouble_append {part : List Char} (h : ':' ∉ part) (rest : List Char) :
    splitDouble (part ++ rest) = (splitDouble rest).map fun p => (part ++ p.1, p.2) := by
  induction part with
  | nil => simp
  | cons c part ih =>
      have hc : c ≠ ':' := fun hc => h (by rw [hc]; exact List.mem_cons_self)
      have hpart : ':' ∉ part := fun hmem => h (List.mem_cons_of_mem c hmem)
      rw [List.cons_append, splitDouble_cons (fun heq => absurd heq hc), ih hpart, Option.map_map]
      rfl

theorem splitDouble_piecesText_append (ps : List UInt16) (rest : List Char) :
    splitDouble (piecesText ps ++ rest) =
      (splitDouble rest).map fun p => (piecesText ps ++ p.1, p.2) := by
  induction ps with
  | nil => simp [piecesText, join]
  | cons p ps ih =>
      cases ps with
      | nil => exact splitDouble_append (not_mem_colon_digitsOf p.toNat) rest
      | cons q qs =>
          have htext : piecesText (p :: q :: qs) = digitsOf 16 p.toNat ++ ':' :: piecesText (q :: qs) := rfl
          obtain ⟨c, cs, hcs, hc⟩ := piecesText_cons_eq q qs
          have hsingle : (piecesText (q :: qs) ++ rest).head? ≠ some ':' := by
            rw [hcs]
            simpa using hc
          rw [htext, List.append_assoc, List.cons_append, splitDouble_append (not_mem_colon_digitsOf p.toNat),
            splitDouble_cons (fun _ => hsingle), ih, Option.map_map, Option.map_map]
          congr 1
          funext q
          simp

theorem take_zeroRun (ps : List UInt16) : ps.take (zeroRun ps) = List.replicate (zeroRun ps) 0 := by
  induction ps with
  | nil => rfl
  | cons p ps ih =>
      by_cases hp : p = 0
      · have hrun : zeroRun (p :: ps) = zeroRun ps + 1 := by simp [zeroRun, hp]
        rw [hrun, List.take_succ_cons, ih, hp, List.replicate_succ]
      · have hrun : zeroRun (p :: ps) = 0 := by simp [zeroRun, hp]
        rw [hrun]
        rfl

theorem zeroRun_le_length (ps : List UInt16) : zeroRun ps ≤ ps.length :=
  (List.takeWhile_sublist _).length_le

/-- The zeros that are left out are a run of more than one. -/
theorem longestZeros_some {ps : List UInt16} {i n : Nat} (h : longestZeros ps = some (i, n)) :
    1 < n ∧ n = zeroRun (ps.drop i) := by
  -- True of every run the search holds, whatever starts are left to try.
  have hheld : ∀ (starts : List Nat) (best : Option (Nat × Nat)),
      (∀ j m, best = some (j, m) → 1 < m ∧ m = zeroRun (ps.drop j)) →
      ∀ j m, starts.foldl (fun best i =>
        let n := zeroRun (ps.drop i)
        if n > 1 && n > (best.map Prod.snd).getD 0 then some (i, n) else best) best = some (j, m) →
      1 < m ∧ m = zeroRun (ps.drop j) := by
    intro starts
    induction starts with
    | nil =>
        intro best hbest j m hm
        exact hbest j m hm
    | cons start starts ih =>
        intro best hbest j m hm
        refine ih _ ?_ j m hm
        intro j m hjm
        dsimp only at hjm
        split_ifs at hjm with hlonger
        · rw [Bool.and_eq_true, decide_eq_true_eq, decide_eq_true_eq] at hlonger
          obtain ⟨rfl, rfl⟩ := Prod.mk.inj (Option.some.inj hjm)
          exact ⟨hlonger.1, rfl⟩
        · exact hbest j m hjm
  exact hheld (List.range ps.length) none (by simp) i n h

theorem replace_zeros {ps : List UInt16} {i n : Nat} (h : longestZeros ps = some (i, n)) :
    ps.take i ++ List.replicate n 0 ++ ps.drop (i + n) = ps ∧ i + n ≤ ps.length := by
  obtain ⟨hn, hrun⟩ := longestZeros_some h
  have hzeros := take_zeroRun (ps.drop i)
  have hlength := zeroRun_le_length (ps.drop i)
  rw [← hrun] at hzeros hlength
  rw [List.length_drop] at hlength
  refine ⟨?_, by omega⟩
  rw [← hzeros, ← List.drop_drop, List.append_assoc, List.take_append_drop, List.take_append_drop]

theorem ipv6?_text (a : Ipv6) : ipv6? a.text = some a := by
  have hnumbers : ∀ ps : List UInt16, (ps.map UInt16.toNat).map UInt16.ofNat = ps := by
    intro ps
    rw [List.map_map]
    exact List.map_id'' (fun p => UInt16.ofNat_toNat) ps
  have height := a.length_eq
  rw [Ipv6.text]
  split
  · rename_i hnone
    have hne : a.pieces ≠ [] := by
      intro hnil
      simp [hnil] at height
    have hdouble := splitDouble_piecesText_append a.pieces []
    rw [List.append_nil, splitDouble, Option.map_none] at hdouble
    simp only [ipv6?, hdouble, splitOn_piecesText hne, ipv6Pieces?_map]
    simp [height, hnumbers]
  · rename_i i n hzeros
    obtain ⟨hwhole, hle⟩ := replace_zeros hzeros
    have hmore := (longestZeros_some hzeros).1
    have hbefore : ((a.pieces.take i).map UInt16.toNat).length = i := by
      rw [List.length_map, List.length_take]
      omega
    have hafter : ((a.pieces.drop (i + n)).map UInt16.toNat).length = 8 - (i + n) := by
      rw [List.length_map, List.length_drop, height]
    have hfill : 8 - (i + (8 - (i + n))) = n := by omega
    have hpieces : (a.pieces.take i).map UInt16.toNat ++ List.replicate n 0
        ++ (a.pieces.drop (i + n)).map UInt16.toNat = a.pieces.map UInt16.toNat := by
      have hmapped := congrArg (List.map UInt16.toNat) hwhole
      rw [List.map_append, List.map_append, List.map_replicate] at hmapped
      exact hmapped
    rw [ipv6?, List.append_assoc, splitDouble_piecesText_append]
    simp only [List.cons_append, List.nil_append, splitDouble, Option.map_some, List.append_nil,
      sidePieces?_piecesText, hbefore, hafter, hfill, hpieces]
    rw [if_pos (by omega)]
    simp [height, hnumbers]

end LinkSurvey.Url
