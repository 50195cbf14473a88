import LinkSurvey.Proofs.Url.Authority
import LinkSurvey.Proofs.Url.Path

/-!
What reading gives. Every component of a web-like URL comes out in its encoded form, whichever of the
components are taken from a base; and only a web-like base gives a web-like URL its components.
-/

namespace LinkSurvey.Url

/-- A web-like URL as it is read, where `port` is the default of its scheme. -/
structure IsNormal (u : Url) (port : Nat) : Prop where
  kind : u.kind = .web port
  authority : ∃ a, u.authority = some a ∧ a.IsNormal port
  path : ∃ names, u.path = .segments names ∧ IsNormalPath names
  query : ∀ q ∈ u.query, Encoded inSpecialQuery q
  fragment : ∀ f ∈ u.fragment, Encoded inFragment f

/-! ### What reading gives -/

theorem encoded_query {port : Nat} {cs q : List Char} (h : q ∈ (readQuery (.web port) cs).1) :
    Encoded inSpecialQuery q := by
  simp only [readQuery] at h
  split at h
  · rw [← Option.some.inj h]
    exact encoded_percentEncode isStable_inSpecialQuery _
  · cases h

theorem encoded_fragment {k : Kind} {cs f : List Char} (h : f ∈ (readQuery k cs).2) :
    Encoded inFragment f := by
  simp only [readQuery] at h
  split at h
  · rw [← Option.some.inj h]
    exact encoded_percentEncode isStable_inFragment _
  · cases h

theorem isNormal_withQuery {u : Url} {port : Nat} (hkind : u.kind = .web port)
    (hauthority : ∃ a, u.authority = some a ∧ a.IsNormal port)
    (hpath : ∃ names, u.path = .segments names ∧ IsNormalPath names) (rest : List Char) :
    (withQuery u rest).IsNormal port := by
  refine ⟨hkind, hauthority, hpath, ?_, ?_⟩
  · intro q hq
    simp only [withQuery, hkind] at hq
    exact encoded_query hq
  · intro f hf
    simp only [withQuery] at hf
    exact encoded_fragment hf

theorem IsNormal.withFragment {u : Url} {port : Nat} (h : u.IsNormal port) {fragment : Option (List Char)}
    (hfragment : ∀ f ∈ fragment, Encoded inFragment f) : { u with fragment }.IsNormal port :=
  ⟨h.kind, h.authority, h.path, h.query, hfragment⟩

theorem afterSlashes_eq_ok {scheme cs : List Char} {u : Url} (h : afterSlashes scheme cs = .ok u) :
    ∃ authorityText last a pathStart path rest,
      readAuthority (Kind.of scheme) authorityText last = .ok (a, pathStart)
        ∧ u = withQuery ⟨scheme, some a, .segments (readPathStart (Kind.of scheme) path), none, none⟩ rest := by
  simp only [afterSlashes, bind, Except.bind, pure, Except.pure] at h
  split at h
  · cases h
  · rename_i v hauthority
    exact ⟨_, _, v.1, v.2, _, _, hauthority, (Except.ok.inj h).symm⟩

theorem scheme_afterSlashes {scheme cs : List Char} {u : Url} (h : afterSlashes scheme cs = .ok u) :
    u.scheme = scheme := by
  obtain ⟨-, -, -, -, -, -, -, rfl⟩ := afterSlashes_eq_ok h
  rfl

theorem isNormal_afterSlashes {scheme cs : List Char} {u : Url} {port : Nat}
    (hkind : Kind.of scheme = .web port) (h : afterSlashes scheme cs = .ok u) : u.IsNormal port := by
  obtain ⟨authorityText, last, a, pathStart, path, rest, hauthority, rfl⟩ := afterSlashes_eq_ok h
  rw [hkind] at hauthority ⊢
  refine isNormal_withQuery ?_ ?_ ?_ rest
  · exact hkind
  · exact ⟨a, rfl, isNormal_of_readAuthority hauthority⟩
  · exact ⟨_, rfl, isNormalPath_readPathStart port path⟩

theorem scheme_otherUrl {scheme cs : List Char} {u : Url} (h : otherUrl scheme cs = .ok u) :
    u.scheme = scheme := by
  rw [otherUrl.eq_def] at h
  split at h
  · exact scheme_afterSlashes h
  · rw [← Except.ok.inj h]
    rfl
  · rw [← Except.ok.inj h]
    rfl

theorem scheme_relativeUrl {base u : Url} {cs : List Char} (h : relativeUrl base cs = .ok u) :
    u.scheme = base.scheme := by
  rw [relativeUrl.eq_def] at h
  split at h
  · rw [← Except.ok.inj h]
  · rw [← Except.ok.inj h]
    rfl
  · rw [← Except.ok.inj h]
  · split_ifs at h
    · exact scheme_afterSlashes h
    · exact scheme_afterSlashes h
    · rw [← Except.ok.inj h]
      rfl
    · rw [← Except.ok.inj h]
      rfl

theorem kind_fileUrl (host : Host) (segments : List Segment) (rest : List Char) :
    (fileUrl host segments rest).kind = .file := rfl

theorem kind_fromRoot (base : Option Url) (cs : List Char) :
    (fileReference.fromRoot base cs).kind = .file := by
  simp only [fileReference.fromRoot]
  split
  · split_ifs
    · exact kind_fileUrl _ _ _
    · exact kind_fileUrl _ _ _
    · exact kind_fileUrl _ _ _
  · exact kind_fileUrl _ _ _

theorem kind_relative {base : Option Url} (hbase : ∀ b ∈ base, b.kind = .file) (cs : List Char) :
    (fileReference.relative base cs).kind = .file := by
  cases base with
  | none => exact kind_fileUrl _ _ _
  | some b =>
      have hb : b.kind = .file := hbase b rfl
      rw [fileReference.relative.eq_def]
      split
      · rename_i heq
        rw [← Option.some.inj heq]
        exact hb
      · rename_i heq
        rw [← Option.some.inj heq]
        exact hb
      · rename_i heq
        rw [← Option.some.inj heq]
        exact hb
      · dsimp only
        split_ifs
        · exact kind_fileUrl _ _ _
        · exact kind_fileUrl _ _ _
      · exact kind_fileUrl _ _ _

theorem kind_withHost {cs : List Char} {u : Url} (h : fileReference.withHost cs = .ok u) :
    u.kind = .file := by
  simp only [fileReference.withHost] at h
  split at h
  · rw [← Except.ok.inj h]
    exact kind_fileUrl _ _ _
  · split at h
    · cases h
    · rw [← Except.ok.inj h]
      exact kind_fileUrl _ _ _

/-- A reference to a file is a file's URL. -/
theorem kind_fileReference {base : Option Url} (hbase : ∀ b ∈ base, b.kind = .file) {cs : List Char}
    {u : Url} (h : fileReference base cs = .ok u) : u.kind = .file := by
  rw [fileReference.eq_def] at h
  split at h
  · split at h
    · exact kind_withHost h
    · split at h
      · rw [← Except.ok.inj h]
        exact kind_fromRoot base _
      · rw [← Except.ok.inj h]
        exact kind_relative hbase _
  · rw [← Except.ok.inj h]
    split
    · exact kind_fromRoot base _
    · exact kind_relative hbase _
  · rw [← Except.ok.inj h]
    exact kind_relative hbase _

theorem IsNormal.parentSegments {u : Url} {port : Nat} (h : u.IsNormal port) :
    ∀ name ∈ u.parentSegments, Segment.IsNormal name := by
  obtain ⟨names, hpath, hnames⟩ := h.path
  intro name hname
  rw [Url.parentSegments, hpath, h.kind] at hname
  simp only [dropSegment_web, List.mem_reverse] at hname
  exact hnames.normal name (List.mem_reverse.1 (List.mem_of_mem_tail hname))

theorem isNormal_relativeUrl {base u : Url} {port : Nat} (hbase : base.IsNormal port) {cs : List Char}
    (h : relativeUrl base cs = .ok u) : u.IsNormal port := by
  have hnone : ∀ f ∈ (none : Option (List Char)), Encoded inFragment f := by simp
  have hkind : Kind.of base.scheme = .web port := hbase.kind
  rw [relativeUrl.eq_def] at h
  split at h
  · rw [← Except.ok.inj h]
    exact hbase.withFragment hnone
  · rw [← Except.ok.inj h]
    exact isNormal_withQuery hbase.kind hbase.authority hbase.path _
  · rw [← Except.ok.inj h]
    exact hbase.withFragment fun f hf => encoded_fragment hf
  · split at h
    · split at h
      · exact isNormal_afterSlashes hkind h
      · rw [← Except.ok.inj h]
        refine isNormal_withQuery ?_ ?_ ⟨_, rfl, ?_⟩ _
        · exact hbase.kind
        · exact hbase.authority
        · rw [hbase.kind]
          exact isNormalPath_readPath (by simp) _
    · rw [← Except.ok.inj h]
      refine isNormal_withQuery ?_ ?_ ⟨_, rfl, ?_⟩ _
      · exact hbase.kind
      · exact hbase.authority
      · rw [hbase.kind]
        exact isNormalPath_readPath hbase.parentSegments _

theorem isNormal_absoluteUrl {base : Option Url} {scheme cs : List Char} {u : Url} {port : Nat}
    (hbase : ∀ b ∈ base, b.kind = .web port → b.IsNormal port) (h : absoluteUrl base scheme cs = .ok u)
    (hkind : u.kind = .web port) : u.IsNormal port := by
  rw [absoluteUrl] at h
  split at h
  · rename_i hfile
    have hsame : ∀ b ∈ base.filter (·.scheme == scheme), b.kind = .file := by
      intro b hb
      obtain ⟨-, hscheme⟩ := Option.filter_eq_some_iff.1 hb
      rw [kind, beq_iff_eq.1 hscheme, hfile]
    rw [kind_fileReference hsame h] at hkind
    cases hkind
  · rename_i hother
    rw [kind, scheme_otherUrl h, hother] at hkind
    cases hkind
  · rename_i d hweb
    split at h
    · rename_i b hb
      obtain ⟨hmem, hsame⟩ := Option.filter_eq_some_iff.1 hb
      have hport : b.kind = .web port := by
        rw [kind, ← scheme_relativeUrl h]
        exact hkind
      exact isNormal_relativeUrl (hbase b hmem hport) h
    · rw [kind, scheme_afterSlashes h] at hkind
      exact isNormal_afterSlashes hkind h

/-- Reading gives URLs that stand for themselves, if the base is one. -/
theorem isNormal_resolve {base : Option Url} {cs : List Char} {u : Url} {port : Nat}
    (hbase : ∀ b ∈ base, b.kind = .web port → b.IsNormal port) (h : resolve base cs = .ok u)
    (hkind : u.kind = .web port) : u.IsNormal port := by
  simp only [resolve] at h
  split at h
  · exact isNormal_absoluteUrl hbase h hkind
  · split at h
    · cases h
    · rename_i b
      split at h
      · rw [← Except.ok.inj h] at hkind ⊢
        exact (hbase b rfl hkind).withFragment fun f hf => encoded_fragment hf
      · split at h
        · cases h
        · split at h
          · rename_i hfile
            rw [kind_fileReference (by simpa using hfile) h] at hkind
            cases hkind
          · have hport : b.kind = .web port := by
              rw [kind, ← scheme_relativeUrl h]
              exact hkind
            exact isNormal_relativeUrl (hbase b rfl hport) h

/-- The URLs there are: those that are read, on their own or seen from one of them. -/
inductive Read : Url → Prop where
  | parse {s : String} {u : Url} (h : parse s = .ok u) : Read u
  | join {base : Url} {s : String} {u : Url} (hbase : Read base) (h : join base s = .ok u) : Read u

theorem Read.isNormal {u : Url} {port : Nat} (h : u.Read) (hkind : u.kind = .web port) :
    u.IsNormal port := by
  induction h with
  | parse h => exact isNormal_resolve (by simp) h hkind
  | join hbase h ih => exact isNormal_resolve (by simpa using ih) h hkind

end LinkSurvey.Url
