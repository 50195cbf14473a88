import LinkSurvey.Proofs.DomainName.Characters
import LinkSurvey.Proofs.Text.Utf8
import LinkSurvey.Proofs.Url.Address
import LinkSurvey.Url.Resolve

/-!
Hosts and their texts. A name holds nothing that decodes or ends the host early, and addresses hold only digits
and their separators, so a host is told by its text. An address is read as it is written, and a name if it is
its own ASCII form; what the text of any host is read as, if it can be read, stands for itself from then on.
-/

namespace LinkSurvey.Url

open Text
open DomainName (isNameChar isNameChar_iff splitOn join)

/-! ### Text without encoded bytes -/

theorem percentDecode_cons_of_ne {c : Char} (h : c ≠ '%') (cs : List Char) :
    percentDecode (c :: cs) = String.utf8EncodeChar c ++ percentDecode cs := by
  rw [percentDecode]
  intro a b rest hc
  exact absurd hc h

theorem percentDecode_of_not_mem {cs : List Char} (h : '%' ∉ cs) : percentDecode cs = Utf8.encode cs := by
  induction cs with
  | nil => rfl
  | cons c cs ih =>
      rw [List.mem_cons, not_or] at h
      obtain ⟨hc, hcs⟩ := h
      rw [percentDecode_cons_of_ne (Ne.symm hc), ih hcs]
      rfl

/-! ### Hosts as they are read -/

/-- A host as it is read: a name of characters that an ASCII form is made of, and no address. -/
def Host.IsNormal : Host → Prop
  | .name text => text ≠ [] ∧ (∀ c ∈ text, isNameChar c = true) ∧ endsInNumber text = false
  | .ipv4 _ => True
  | .ipv6 _ => True

/-- A host that is read from its own text: a name is its own ASCII form. -/
def Host.StandsForItself : Host → Prop
  | .name text => DomainName.toAscii? text = some text
  | .ipv4 _ => True
  | .ipv6 _ => True

theorem Host.IsNormal.isNameChar_name {text : List Char} (h : (Host.name text).IsNormal) :
    ∀ c ∈ text, isNameChar c = true :=
  h.2.1

theorem isNormal_of_bracketed {cs : List Char} {host : Host} (h : bracketed cs = .ok host) :
    host.IsNormal := by
  rw [bracketed] at h
  split_ifs at h
  split at h
  · rw [← Except.ok.inj h]
    trivial
  · cases h

theorem isNormal_of_ofText {cs : List Char} {host : Host} (h : Host.ofText cs = .ok host) :
    host.IsNormal := by
  rw [Host.ofText] at h
  split_ifs at h with hbracket
  · exact isNormal_of_bracketed h
  · cases hname : (Utf8.decode? (percentDecode cs)).bind DomainName.toAscii? with
    | none =>
        rw [hname] at h
        cases h
    | some ascii =>
        obtain ⟨name, -, hascii⟩ := Option.bind_eq_some_iff.1 hname
        simp only [hname] at h
        split_ifs at h with hempty hnumber
        · split at h
          · rw [← Except.ok.inj h]
            trivial
          · cases h
        · rw [← Except.ok.inj h]
          refine ⟨?_, DomainName.isNameChar_of_toAscii? hascii, by simpa using hnumber⟩
          intro hnil
          exact hempty (by rw [hnil]; rfl)

theorem not_mem_percent {cs : List Char} (h : ∀ c ∈ cs, isNameChar c = true) : '%' ∉ cs :=
  fun hmem => absurd (h '%' hmem) (by decide)

theorem decode?_percentDecode {cs : List Char} (h : '%' ∉ cs) : Utf8.decode? (percentDecode cs) = some cs := by
  rw [percentDecode_of_not_mem h, Utf8.decode?_encode]

theorem head?_ne_bracket {cs : List Char} (h : ∀ c ∈ cs, isNameChar c = true) : cs.head? ≠ some '[' := by
  intro hhead
  exact absurd (h '[' (List.mem_of_mem_head? hhead)) (by decide)

theorem ofText_of_toAscii? {cs ascii : List Char} (hbracket : cs.head? ≠ some '[') (hpercent : '%' ∉ cs)
    (h : DomainName.toAscii? cs = some ascii) (hne : ascii ≠ []) :
    Host.ofText cs =
      if endsInNumber ascii then
        match ipv4? ascii with
        | some a => .ok (.ipv4 a)
        | none => .error .invalidIpv4
      else .ok (.name ascii) := by
  have hsome : ascii.isEmpty = false := by simpa using hne
  rw [Host.ofText, if_neg hbracket, decode?_percentDecode hpercent, Option.bind_some, h]
  simp only [hsome]
  rfl

/-- A name that is its own ASCII form is kept, or read as an address. -/
theorem ofText_of_toAscii?_self {cs : List Char} (h : DomainName.toAscii? cs = some cs) (hne : cs ≠ []) :
    Host.ofText cs =
      if endsInNumber cs then
        match ipv4? cs with
        | some a => .ok (.ipv4 a)
        | none => .error .invalidIpv4
      else .ok (.name cs) :=
  have hchar := DomainName.isNameChar_of_toAscii? h
  ofText_of_toAscii? (head?_ne_bracket hchar) (not_mem_percent hchar) h hne

theorem toAscii?_ipv4Text (address : UInt32) :
    DomainName.toAscii? (ipv4Text address) = some (ipv4Text address) := by
  refine DomainName.toAscii?_join_digits (by simp) ?_
  intro part hpart c hc
  obtain ⟨n, -, rfl⟩ := List.mem_map.1 hpart
  exact isDigit_of_mem_digitsOf hc

theorem bracketed_text (a : Ipv6) : bracketed ('[' :: a.text ++ [']']) = .ok (.ipv6 a) := by
  have hlength : ¬('[' :: a.text ++ [']']).length < 2 := by
    simp
  have hlast : ('[' :: a.text ++ [']']).getLast? = some ']' := List.getLast?_concat
  have hinner : (('[' :: a.text ++ [']']).drop 1).dropLast = a.text := List.dropLast_concat
  rw [bracketed, hlast, hinner, ipv6?_text, if_neg]
  simp

theorem ipv4Text_ne_nil (address : UInt32) : ipv4Text address ≠ [] := by
  intro hnil
  have hnumber := endsInNumber_ipv4Text address
  rw [hnil] at hnumber
  exact absurd hnumber (by decide)

theorem Host.IsNormal.text_ne_nil {host : Host} (h : host.IsNormal) : host.text ≠ [] := by
  cases host with
  | name text => exact h.1
  | ipv4 address => exact ipv4Text_ne_nil address
  | ipv6 address => exact List.cons_ne_nil '[' _

theorem isNameChar_ipv4Text (address : UInt32) : ∀ c ∈ ipv4Text address, isNameChar c = true :=
  DomainName.isNameChar_of_toAscii? (toAscii?_ipv4Text address)

theorem ofText_ipv4Text (address : UInt32) : Host.ofText (ipv4Text address) = .ok (.ipv4 address) := by
  rw [ofText_of_toAscii?_self (toAscii?_ipv4Text address) (ipv4Text_ne_nil address), endsInNumber_ipv4Text,
    if_pos rfl, ipv4?_ipv4Text]

theorem ofText_ipv6Text (address : Ipv6) : Host.ofText (Host.ipv6 address).text = .ok (.ipv6 address) := by
  have hhead : (Host.ipv6 address).text.head? = some '[' := rfl
  rw [Host.ofText, if_pos hhead]
  exact bracketed_text address

/-- A host that stands for itself is read from its text. -/
theorem Host.IsNormal.ofText_text {host : Host} (h : host.IsNormal) (hself : host.StandsForItself) :
    Host.ofText host.text = .ok host := by
  cases host with
  | name text =>
      obtain ⟨hne, -, hnumber⟩ := h
      rw [Host.text, ofText_of_toAscii?_self hself hne, hnumber]
      rfl
  | ipv4 address => exact ofText_ipv4Text address
  | ipv6 address => exact ofText_ipv6Text address

/-- What the text of a host is read as, if it can be read, stands for itself: the text is ASCII. -/
theorem Host.IsNormal.standsForItself_of_ofText {host other : Host} (h : host.IsNormal)
    (hread : Host.ofText host.text = .ok other) : other.StandsForItself := by
  cases host with
  | name text =>
      have hchar := h.isNameChar_name
      rw [Host.text, Host.ofText, if_neg (head?_ne_bracket hchar), decode?_percentDecode (not_mem_percent hchar),
        Option.bind_some] at hread
      split at hread
      · cases hread
      · rename_i ascii hascii
        have hself := DomainName.toAscii?_self_of_ascii
          (fun c hc => DomainName.toNat_lt_of_isNameChar (hchar c hc)) hascii
        split_ifs at hread
        · split at hread
          · cases hread
            trivial
          · cases hread
        · cases hread
          exact hself
  | ipv4 address =>
      cases (ofText_ipv4Text address).symm.trans hread
      trivial
  | ipv6 address =>
      cases (ofText_ipv6Text address).symm.trans hread
      trivial

/-- No address has the text of a name: a name does not end in a number and has no brackets. -/
theorem Host.IsNormal.eq_name_of_text {text : List Char} (h : (Host.name text).IsNormal) {other : Host}
    (htext : text = other.text) : other = .name text := by
  obtain ⟨-, hchar, hnumber⟩ := h
  cases other with
  | name other => exact congrArg Host.name htext.symm
  | ipv4 address =>
      rw [htext, Host.text, endsInNumber_ipv4Text] at hnumber
      cases hnumber
  | ipv6 address =>
      rw [htext] at hchar
      exact absurd rfl (head?_ne_bracket hchar)

theorem Host.IsNormal.eq_of_text {host other : Host} (h : host.IsNormal) (hself : host.StandsForItself)
    (hother : other.IsNormal) (hotherSelf : other.StandsForItself) (htext : host.text = other.text) :
    host = other := by
  have hread := h.ofText_text hself
  rw [htext, hother.ofText_text hotherSelf] at hread
  exact (Except.ok.inj hread).symm

/-- The text of a host says which it is. -/
theorem Host.IsNormal.text_injective {host other : Host} (h : host.IsNormal) (hother : other.IsNormal)
    (htext : host.text = other.text) : host = other := by
  cases host with
  | name text => exact (h.eq_name_of_text htext).symm
  | ipv4 address =>
      cases other with
      | name other => exact hother.eq_name_of_text htext.symm
      | ipv4 other => exact h.eq_of_text trivial hother trivial htext
      | ipv6 other => exact h.eq_of_text trivial hother trivial htext
  | ipv6 address =>
      cases other with
      | name other => exact hother.eq_name_of_text htext.symm
      | ipv4 other => exact h.eq_of_text trivial hother trivial htext
      | ipv6 other => exact h.eq_of_text trivial hother trivial htext

theorem isNormal_of_readHost {port : Nat} {cs : List Char} {host : Host}
    (h : readHost (.web port) cs = .ok host) : host.IsNormal := by
  have hspecial : (Kind.web port).isSpecial = true := rfl
  rw [readHost, if_pos hspecial] at h
  split_ifs at h
  exact isNormal_of_ofText h

theorem Host.IsNormal.readHost_text {host : Host} (h : host.IsNormal) (port : Nat) :
    readHost (.web port) host.text = Host.ofText host.text := by
  have hspecial : (Kind.web port).isSpecial = true := rfl
  rw [readHost, if_pos hspecial, if_neg (by simpa using h.text_ne_nil)]

/-! ### Hosts within an authority -/

/-- Characters that neither end an authority nor are taken out of a text. -/
def isHostChar (c : Char) : Bool :=
  32 < c.toNat && !(['/', '\\', '?', '#', '@'].contains c)

theorem isHostChar_of_isNameChar {c : Char} (h : isNameChar c = true) : isHostChar c = true := by
  obtain ⟨-, hallowed⟩ := (isNameChar_iff c).1 h
  simp only [DomainName.isForbidden, Bool.or_eq_false_iff, decide_eq_false_iff_not, List.contains_eq_mem,
    List.mem_cons, not_or] at hallowed
  simp [isHostChar, hallowed]
  omega

theorem mem_piecesText {c : Char} {ps : List UInt16} (h : c ∈ piecesText ps) : c ∈ ':' :: numerals := by
  rcases DomainName.mem_join h with rfl | ⟨part, hpart, hc⟩
  · exact List.mem_cons_self
  · obtain ⟨p, -, rfl⟩ := List.mem_map.1 hpart
    exact List.mem_cons_of_mem ':' (mem_numerals_of_mem_digitsOf (by decide) (by decide) hc)

theorem mem_ipv6Text {c : Char} {a : Ipv6} (h : c ∈ a.text) : c ∈ ':' :: numerals := by
  rw [Ipv6.text] at h
  split at h
  · exact mem_piecesText h
  · rcases List.mem_append.1 h with h | h
    · rcases List.mem_append.1 h with h | h
      · exact mem_piecesText h
      · rw [List.mem_cons, List.mem_singleton, or_self] at h
        rw [h]
        exact List.mem_cons_self
    · exact mem_piecesText h

theorem Host.IsNormal.isHostChar {host : Host} (h : host.IsNormal) :
    ∀ c ∈ host.text, isHostChar c = true := by
  intro c hc
  cases host with
  | name text => exact isHostChar_of_isNameChar (h.isNameChar_name c hc)
  | ipv4 address => exact isHostChar_of_isNameChar (isNameChar_ipv4Text address c hc)
  | ipv6 address =>
      have hall : ('[' :: ']' :: ':' :: numerals).all Url.isHostChar = true := by decide
      refine List.all_eq_true.1 hall c ?_
      rcases List.mem_append.1 hc with hc | hc
      · rcases List.mem_cons.1 hc with rfl | hc
        · exact List.mem_cons_self
        · exact List.mem_cons_of_mem _ (List.mem_cons_of_mem _ (mem_ipv6Text hc))
      · rw [List.mem_singleton.1 hc]
        decide

theorem splitPort_port {rest : List Char} (hrest : ∀ c ∈ rest.head?, c = ':') :
    splitPort false rest = ([], rest) := by
  cases rest with
  | nil => rfl
  | cons c rest =>
      rw [hrest c rfl]
      rfl

theorem splitPort_append {text rest : List Char} (h : ∀ c ∈ text, c ≠ ':' ∧ c ≠ '[')
    (hrest : ∀ c ∈ rest.head?, c = ':') : splitPort false (text ++ rest) = (text, rest) := by
  induction text with
  | nil => exact splitPort_port hrest
  | cons c text ih =>
      obtain ⟨⟨hcolon, hbracket⟩, htext⟩ := List.forall_mem_cons.1 h
      have hopen : (c == '[' || (false && c != ']')) = false := by simpa using hbracket
      rw [List.cons_append, splitPort, if_neg (by simp [hcolon]), hopen, ih htext]

/-- Colons within brackets do not start a port. -/
theorem splitPort_bracketed {text : List Char} (h : ']' ∉ text) (rest : List Char) :
    splitPort true (text ++ ']' :: rest) =
      (text ++ ']' :: (splitPort false rest).1, (splitPort false rest).2) := by
  induction text with
  | nil => rfl
  | cons c text ih =>
      rw [List.mem_cons, not_or] at h
      have hopen : (c == '[' || (true && c != ']')) = true := by
        simp [Ne.symm h.1]
      rw [List.cons_append, splitPort, if_neg (by simp), hopen, ih h.2]
      rfl

theorem Host.IsNormal.splitPort {host : Host} (h : host.IsNormal) {rest : List Char}
    (hrest : ∀ c ∈ rest.head?, c = ':') : splitPort false (host.text ++ rest) = (host.text, rest) := by
  have hplain : ∀ c, isNameChar c = true → c ≠ ':' ∧ c ≠ '[' := by
    intro c hc
    refine ⟨?_, ?_⟩
    · rintro rfl
      exact absurd hc (by decide)
    · rintro rfl
      exact absurd hc (by decide)
  cases host with
  | name text => exact splitPort_append (fun c hc => hplain c (h.isNameChar_name c hc)) hrest
  | ipv4 address => exact splitPort_append (fun c hc => hplain c (isNameChar_ipv4Text address c hc)) hrest
  | ipv6 address =>
      have hclose : ']' ∉ address.text := fun hmem => absurd (mem_ipv6Text hmem) (by decide)
      have hinner := splitPort_bracketed hclose rest
      rw [splitPort_port hrest] at hinner
      have hopen : ('[' == '[' || (false && '[' != ']')) = true := rfl
      show Url.splitPort false ('[' :: address.text ++ [']'] ++ rest) = _
      rw [List.append_assoc, List.singleton_append, List.cons_append, Url.splitPort, if_neg (by decide), hopen,
        hinner]
      rfl

end LinkSurvey.Url
