import LinkSurvey.Proofs.Url.Host
import LinkSurvey.Proofs.Url.Percent
import Mathlib.Data.List.TakeDrop

/-!
Authorities are cut as they are put together. User and password hold no delimiters, for those are encoded in
them; the last `@` is therefore the one after the password, and the colon after a host outside of brackets
is the one before its port. So the text of an authority tells its parts, and reading it is reading its host.
-/

namespace LinkSurvey.Url

/-! ### Cutting a text -/

/-- A text is cut where the first character stands that does not belong to its front. -/
theorem span_append {p : Char → Bool} {before after : List Char} (hbefore : ∀ c ∈ before, p c = true)
    (hafter : ∀ c ∈ after.head?, p c = false) : (before ++ after).span p = (before, after) := by
  rw [List.span_eq_takeWhile_dropWhile, List.takeWhile_append_of_pos hbefore,
    List.dropWhile_append_of_pos hbefore]
  cases after with
  | nil => simp
  | cons c after =>
      have hc : p c = false := hafter c rfl
      rw [List.takeWhile_cons_of_neg (by simp [hc]), List.dropWhile_cons_of_neg (by simp [hc]), List.append_nil]

theorem span_of_all {p : Char → Bool} {cs : List Char} (h : ∀ c ∈ cs, p c = true) : cs.span p = (cs, []) := by
  have hend : ∀ c ∈ ([] : List Char).head?, p c = false := by simp
  have hspan := span_append h hend
  rw [List.append_nil] at hspan
  exact hspan

theorem splitLastAt_append {after : List Char} (h : '@' ∉ after) (before : List Char) :
    splitLastAt (before ++ '@' :: after) = some (before, after) := by
  have hafter : ∀ c ∈ after.reverse, (c != '@') = true := by
    intro c hc
    rw [bne_iff_ne]
    rintro rfl
    exact h (List.mem_reverse.1 hc)
  have hmark : ∀ c ∈ ('@' :: before.reverse).head?, (c != '@') = false := by simp
  have hspan := span_append hafter hmark
  have hreverse : (before ++ '@' :: after).reverse = after.reverse ++ '@' :: before.reverse := by simp
  rw [splitLastAt, hreverse, hspan]
  simp

theorem splitLastAt_of_not_mem {cs : List Char} (h : '@' ∉ cs) : splitLastAt cs = none := by
  have hall : ∀ c ∈ cs.reverse, (c != '@') = true := by
    intro c hc
    rw [bne_iff_ne]
    rintro rfl
    exact h (List.mem_reverse.1 hc)
  rw [splitLastAt, span_of_all hall]

/-! ### Ports -/

theorem readPort_web {digits : List Char} {d : Nat} {port : Option UInt16}
    (h : readPort (.web d) digits = .ok port) : ∀ p ∈ port, p.toNat ≠ d := by
  intro p hp
  rw [readPort] at h
  split_ifs at h
  split at h
  · cases h
  · rename_i n hn
    split_ifs at h with hlarge hdefault
    · rw [← Except.ok.inj h] at hp
      cases hp
    · rw [← Except.ok.inj h] at hp
      rw [← Option.some.inj hp, UInt16.toNat_ofNat', Nat.mod_eq_of_lt (by omega)]
      intro hsame
      exact hdefault (by simp [hsame])

theorem readPort_nil (k : Kind) : readPort k [] = .ok none := by
  simp [readPort, number?]

theorem readPort_digitsOf {d : Nat} {p : UInt16} (h : p.toNat ≠ d) :
    readPort (.web d) (digitsOf 10 p.toNat) = .ok (some p) := by
  have hlt := p.toNat_lt
  have hdigits : (digitsOf 10 p.toNat).all Char.isDigit = true :=
    List.all_eq_true.2 fun c hc => isDigit_of_mem_digitsOf hc
  have hsmall : ¬65535 < p.toNat := by omega
  have hport : ((digitsOf 10 p.toNat).isEmpty || decide (Kind.web d = .web p.toNat)) = false := by
    simp [digitsOf_ne_nil, Ne.symm h]
  simp only [readPort, hdigits, number?_digitsOf 10 (by decide) (by decide), if_neg hsmall, hport]
  simp

/-! ### Authorities as they are read -/

/-- An authority as it is read, where `port` is the default. -/
structure Authority.IsNormal (a : Authority) (port : Nat) : Prop where
  user : Encoded inUserinfo a.user
  password : Encoded inUserinfo a.password
  host : a.host.IsNormal
  port : ∀ p ∈ a.port, p.toNat ≠ port

theorem encoded_readCredentials (cs : List Char) :
    Encoded inUserinfo (readCredentials cs).1 ∧ Encoded inUserinfo (readCredentials cs).2 :=
  ⟨encoded_percentEncode isStable_inUserinfo _, encoded_percentEncode isStable_inUserinfo _⟩

theorem isNormal_of_readAuthority {port : Nat} {cs path : List Char} {last : Bool} {a : Authority}
    (h : readAuthority (.web port) cs last = .ok (a, path)) : a.IsNormal port := by
  simp only [readAuthority, bind, Except.bind, pure, Except.pure, throw, throwThe, MonadExceptOf.throw] at h
  split at h
  · cases h
  split at h
  · cases h
  rename_i host hhost
  split at h
  · cases h
  split at h
  · cases h
  rename_i number hnumber
  split at h
  · cases h
  obtain ⟨rfl, -⟩ := Prod.mk.inj (Except.ok.inj h)
  exact ⟨(encoded_readCredentials _).1, (encoded_readCredentials _).2, isNormal_of_readHost hhost,
    readPort_web hnumber⟩

theorem readCredentials_append {user password : List Char} (huser : Encoded inUserinfo user)
    (hpassword : Encoded inUserinfo password) :
    readCredentials (user ++ (if password.isEmpty then [] else ':' :: password)) = (user, password) := by
  have hall : ∀ c ∈ user, (c != ':') = true := by
    intro c hc
    rw [bne_iff_ne]
    rintro rfl
    exact huser.not_mem (by decide) hc
  cases password with
  | nil =>
      have hspan := span_of_all hall
      rw [List.isEmpty_nil, if_pos rfl, List.append_nil, readCredentials, hspan]
      simp only [percentEncode_of_encoded huser]
      rfl
  | cons c password =>
      have hmark : ∀ d ∈ (':' :: c :: password).head?, (d != ':') = false := by simp
      have hspan := span_append hall hmark
      rw [List.isEmpty_cons, if_neg (by decide), readCredentials, hspan]
      simp only [List.drop_one, List.tail_cons, percentEncode_of_encoded huser,
        percentEncode_of_encoded hpassword]

theorem head?_portText (a : Authority) : ∀ c ∈ a.portText.head?, c = ':' := by
  intro c hc
  rw [Authority.portText] at hc
  split at hc
  · cases hc
  · exact (Option.some.inj hc).symm

theorem mem_portText {a : Authority} {c : Char} (h : c ∈ a.portText) : c ∈ ':' :: numerals := by
  rw [Authority.portText] at h
  split at h
  · cases h
  · rcases List.mem_cons.1 h with rfl | h
    · exact List.mem_cons_self
    · exact List.mem_cons_of_mem ':' (mem_numerals_of_mem_digitsOf (by decide) (by decide) h)

theorem Authority.IsNormal.readPort {a : Authority} {port : Nat} (h : a.IsNormal port) :
    readPort (.web port) (a.portText.drop 1) = .ok a.port := by
  cases hport : a.port with
  | none =>
      rw [Authority.portText, hport]
      exact readPort_nil _
  | some p =>
      rw [Authority.portText, hport]
      exact readPort_digitsOf (h.port p hport)

theorem span_portText (a : Authority) :
    (a.portText.drop 1).span (· != '\\') = (a.portText.drop 1, []) := by
  refine span_of_all fun c hc => ?_
  have hall : (':' :: numerals).all (· != '\\') = true := by decide
  exact List.all_eq_true.1 hall c (mem_portText (List.mem_of_mem_drop hc))

/-- The user's name and password are cut off at the mark after them, or there are none. -/
theorem Authority.IsNormal.splitLastAt_text {a : Authority} {port : Nat} (h : a.IsNormal port) :
    (splitLastAt a.text).getD ([], a.text) =
      (a.user ++ (if a.password.isEmpty then [] else ':' :: a.password), a.host.text ++ a.portText) := by
  have hhostPort : '@' ∉ a.host.text ++ a.portText := by
    intro hmem
    rcases List.mem_append.1 hmem with hmem | hmem
    · exact absurd (h.host.isHostChar '@' hmem) (by decide)
    · exact absurd (mem_portText hmem) (by decide)
  rw [Authority.text, Authority.credentials]
  split_ifs with hnone hpassword hpassword
  · rw [Bool.and_eq_true, List.isEmpty_iff, List.isEmpty_iff] at hnone
    rw [List.nil_append, splitLastAt_of_not_mem hhostPort, hnone.1]
    rfl
  · rw [Bool.and_eq_true] at hnone
    exact absurd hnone.2 hpassword
  · rw [List.append_assoc, List.append_assoc, List.singleton_append, splitLastAt_append hhostPort]
    rfl
  · rw [List.append_assoc, List.append_assoc, List.singleton_append, splitLastAt_append hhostPort]
    rfl

/-- Reading the text of an authority is reading that of its host. -/
theorem Authority.IsNormal.readAuthority_text {a : Authority} {port : Nat} (h : a.IsNormal port)
    (last : Bool) : readAuthority (.web port) a.text last
      = (Host.ofText a.host.text).map fun host => ({ a with host }, []) := by
  have hsome : (a.host.text ++ a.portText).isEmpty = false := by simp [h.host.text_ne_nil]
  simp only [readAuthority, h.splitLastAt_text, hsome, readCredentials_append h.user h.password,
    h.host.splitPort (head?_portText a), h.host.readHost_text, span_portText a, h.readPort]
  cases hread : Host.ofText a.host.text with
  | error e => simp [bind, Except.bind, Except.map]
  | ok host =>
      have hname : ¬host = .name [] := by
        rintro rfl
        exact (isNormal_of_ofText hread).1 rfl
      simp [bind, Except.bind, pure, Except.pure, Except.map, hname]

/-- The text of an authority says which it is. -/
theorem Authority.IsNormal.text_injective {a b : Authority} {port : Nat} (ha : a.IsNormal port)
    (hb : b.IsNormal port) (h : a.text = b.text) : a = b := by
  have hparts := ha.splitLastAt_text
  rw [h, hb.splitLastAt_text] at hparts
  obtain ⟨hcredentials, hhostPort⟩ := Prod.mk.inj hparts
  have hread := readCredentials_append ha.user ha.password
  rw [← hcredentials, readCredentials_append hb.user hb.password] at hread
  obtain ⟨huser, hpassword⟩ := Prod.mk.inj hread
  have hsplit := ha.host.splitPort (head?_portText a)
  rw [← hhostPort, hb.host.splitPort (head?_portText b)] at hsplit
  obtain ⟨hhost, hportText⟩ := Prod.mk.inj hsplit
  have hport := ha.readPort
  rw [← hportText, hb.readPort] at hport
  cases a
  cases b
  cases huser
  cases hpassword
  cases hb.host.text_injective ha.host hhost
  cases Except.ok.inj hport
  rfl

theorem isHostChar_of_inUserinfo {c : Char} (h : inUserinfo c = false) : isHostChar c = true := by
  simp only [inUserinfo, inPath, inFragment, inControls, Bool.or_eq_false_iff, decide_eq_false_iff_not,
    List.contains_eq_mem, List.mem_cons, not_or, List.not_mem_nil, not_false_eq_true, and_true] at h
  obtain ⟨⟨⟨⟨hcontrol, -⟩, hspace, -⟩, hhash, hquery, -⟩, hslash, -, -, -, hat, -, hbackslash, -⟩ := h
  have hvisible : c.toNat ≠ 32 := fun hc => hspace (Char.toNat_inj.1 hc)
  have hlarge : 32 < c.toNat := by omega
  simp [isHostChar, hlarge, hslash, hbackslash, hquery, hhash, hat]

/-- What an authority is written with: characters that a host may hold, and the mark before the host. -/
theorem Authority.IsNormal.mem_text {a : Authority} {port : Nat} (h : a.IsNormal port) {c : Char}
    (hc : c ∈ a.text) : isHostChar c = true ∨ c = '@' := by
  have hport : (':' :: numerals).all isHostChar = true := by decide
  have huser : ∀ c ∈ a.user, isHostChar c = true := fun c hc => isHostChar_of_inUserinfo (h.user c hc).2
  have hpassword : ∀ c ∈ a.password, isHostChar c = true :=
    fun c hc => isHostChar_of_inUserinfo (h.password c hc).2
  have hcolon : isHostChar ':' = true := by decide
  rw [Authority.text, List.mem_append, List.mem_append] at hc
  rcases hc with (hc | hc) | hc
  · rw [Authority.credentials] at hc
    split_ifs at hc with hnone hempty
    · cases hc
    · rw [List.append_nil, List.mem_append, List.mem_singleton] at hc
      exact hc.imp (huser c) id
    · rw [List.mem_append, List.mem_append, List.mem_cons, List.mem_singleton] at hc
      rcases hc with (hc | rfl | hc) | hc
      · exact Or.inl (huser c hc)
      · exact Or.inl hcolon
      · exact Or.inl (hpassword c hc)
      · exact Or.inr hc
  · exact Or.inl (h.host.isHostChar c hc)
  · exact Or.inl (List.all_eq_true.1 hport c (mem_portText hc))

theorem Authority.IsNormal.text_ne_nil {a : Authority} {port : Nat} (h : a.IsNormal port) : a.text ≠ [] := by
  intro hnil
  rw [Authority.text, List.append_eq_nil_iff, List.append_eq_nil_iff] at hnil
  exact h.host.text_ne_nil hnil.1.2

end LinkSurvey.Url
