import LinkSurvey.Folder
import LinkSurvey.Proofs.Text.Utf8
import Mathlib.Data.List.Basic

/-!
A text that was written to a file is read from it. Writing changes the folders on no way through the
folder, because a file never takes the place of one, so a path leads to the same place before and after.
-/

namespace LinkSurvey.Folder

/-! ### Putting a file into its place -/

theorem lookup_put_self (p : Place) (bytes : List UInt8) (files : List (Place × List UInt8)) :
    (put p bytes files).lookup p = some bytes := by
  induction files with
  | nil => simp [put]
  | cons file files ih =>
      obtain ⟨q, old⟩ := file
      rw [put]
      split_ifs with hq
      · simp
      · rw [List.lookup_cons, beq_false_of_ne (Ne.symm hq), ih]

theorem lookup_put_of_ne {p q : Place} (h : q ≠ p) (bytes : List UInt8) (files : List (Place × List UInt8)) :
    (put p bytes files).lookup q = files.lookup q := by
  induction files with
  | nil => simp [put, List.lookup_cons, beq_false_of_ne h]
  | cons file files ih =>
      obtain ⟨r, old⟩ := file
      rw [put]
      split_ifs with hr
      · rw [hr, List.lookup_cons, List.lookup_cons, beq_false_of_ne h]
      · rw [List.lookup_cons, List.lookup_cons, ih]

theorem mem_places_put {p q : Place} {bytes : List UInt8} {files : List (Place × List UInt8)} :
    q ∈ (put p bytes files).map Prod.fst ↔ q = p ∨ q ∈ files.map Prod.fst := by
  induction files with
  | nil => simp [put]
  | cons file files ih =>
      obtain ⟨r, old⟩ := file
      rw [put]
      split_ifs with hr
      · simp [hr]
      · rw [List.map_cons, List.map_cons, List.mem_cons, List.mem_cons, ih]
        exact or_left_comm

/-! ### Ways through a folder -/

variable {f : Folder} {p q : Place}

/-- A place on the way to a folder or file. -/
def IsWithin (f : Folder) (p : Place) : Prop :=
  (f.current :: f.folders ++ f.files.map Prod.fst).any p.isPrefixOf = true

theorem IsWithin.above (h : f.IsWithin p) (hqp : q <+: p) : f.IsWithin q := by
  obtain ⟨r, hr, hpr⟩ := List.any_eq_true.1 h
  exact List.any_eq_true.2 ⟨r, hr, List.isPrefixOf_iff_prefix.2 (hqp.trans (List.isPrefixOf_iff_prefix.1 hpr))⟩

theorem isWithin_of_folder (h : f.entry? p = some .folder) : f.IsWithin p := by
  rw [ entry?] at h
  split at h
  · cases h
  · split_ifs at h with hwithin
    exact hwithin

/-- A name leads to a place whose folder is where it started, or to a place above. -/
theorem IsWithin.step {here : Place} (h : f.IsWithin here) (name : List Char) (hq : q <+: step here name)
    (hne : q ≠ step here name) : f.IsWithin q := by
  rw [Folder.step] at hq hne
  split_ifs at hq hne with hstay hup
  · exact h.above hq
  · exact h.above (hq.trans (List.dropLast_prefix here))
  · exact h.above ((List.prefix_concat_iff.1 hq).resolve_left hne)

theorem isWithin_of_walk {here place : Place} {names : List (List Char)} (hhere : f.IsWithin here)
    (h : f.walk here names = .ok place) (hq : q <+: place) (hne : q ≠ place) : f.IsWithin q := by
  induction names generalizing here with
  | nil =>
      rw [walk, Except.ok.injEq] at h
      rw [← h] at hq
      exact hhere.above hq
  | cons name names ih =>
      rw [walk] at h
      split_ifs at h with hlong hlast
      · rw [Except.ok.injEq] at h
        rw [← h] at hq hne
        exact hhere.step name hq hne
      · cases hentry : f.entry? (step here name) with
        | none =>
            rw [hentry] at h
            cases h
        | some entry =>
            rw [hentry] at h
            cases entry with
            | file old => cases h
            | folder => exact ih (isWithin_of_folder hentry) h

theorem isWithin_current (f : Folder) : f.IsWithin f.current := by
  rw [IsWithin, List.cons_append, List.any_cons, List.isPrefixOf_iff_prefix.2 List.prefix_rfl]
  rfl

/-- The folders above a place that a path leads to are there. -/
theorem isWithin_of_locate {path : List Char} (h : f.locate path = .ok p) (hq : q <+: p) (hne : q ≠ p) :
    f.IsWithin q := by
  rw [locate] at h
  split_ifs at h
  · exact isWithin_of_walk ((isWithin_current f).above List.nil_prefix) h hq hne
  · exact isWithin_of_walk (isWithin_current f) h hq hne

variable {path : List Char}

/-- Putting a file where a path leads changes nothing in any other place. -/
theorem entry?_put_of_ne (hp : f.locate path = .ok p) (hne : q ≠ p) (bytes : List UInt8) :
    entry? { f with files := put p bytes f.files } q = f.entry? q := by
  have hwithin : IsWithin { f with files := put p bytes f.files } q ↔ f.IsWithin q := by
    rw [IsWithin, IsWithin, List.any_eq_true, List.any_eq_true]
    constructor
    · rintro ⟨r, hr, hqr⟩
      rw [List.mem_append, mem_places_put] at hr
      rcases hr with hr | rfl | hr
      · exact ⟨r, List.mem_append_left _ hr, hqr⟩
      · exact List.any_eq_true.1 (isWithin_of_locate hp (List.isPrefixOf_iff_prefix.1 hqr) hne)
      · exact ⟨r, List.mem_append_right _ hr, hqr⟩
    · rintro ⟨r, hr, hqr⟩
      rw [List.mem_append] at hr
      exact ⟨r, List.mem_append.2 (hr.imp id fun hr => mem_places_put.2 (Or.inr hr)), hqr⟩
  rw [ entry?, entry?, lookup_put_of_ne hne]
  cases f.files.lookup q with
  | some bytes => rfl
  | none => exact if_congr hwithin rfl rfl

theorem entry?_put_self (p : Place) (bytes : List UInt8) :
    entry? { f with files := put p bytes f.files } p = some (.file bytes) := by
  rw [ entry?, lookup_put_self]

/-- A file never takes the place of a folder, so the folders stay the same. -/
theorem entry?_put_folder (hp : f.locate path = .ok p) (hfile : f.entry? p ≠ some .folder) (bytes : List UInt8) :
    entry? { f with files := put p bytes f.files } q = some .folder ↔ f.entry? q = some .folder := by
  by_cases hne : q = p
  · rw [hne, entry?_put_self]
    exact iff_of_false nofun hfile
  · rw [ entry?_put_of_ne hp hne]

theorem walk_put (hp : f.locate path = .ok p) (hfile : f.entry? p ≠ some .folder) (bytes : List UInt8)
    {here place : Place} {names : List (List Char)} :
    { f with files := put p bytes f.files }.walk here names = .ok place ↔ f.walk here names = .ok place := by
  have hstep : ∀ (g : Folder) {here : Place} {name : List Char} {names : List (List Char)}, names ≠ [] →
      (g.walk here (name :: names) = .ok place ↔ ¬255 < (Text.Utf8.encode name).length
        ∧ g.entry? (step here name) = some .folder ∧ g.walk (step here name) names = .ok place) := by
    intro g here name names hnames
    rw [walk, List.isEmpty_eq_false_iff.2 hnames]
    split_ifs with hlong hfalse
    · simp [hlong]
    · cases hfalse
    · cases hentry : g.entry? (step here name) with
      | none => simp [hlong]
      | some entry => cases entry <;> simp [hlong]
  induction names generalizing here with
  | nil => rfl
  | cons name names ih =>
      by_cases hnames : names = []
      · rw [walk, walk, hnames]
        rfl
      · rw [hstep _ hnames, hstep _ hnames, entry?_put_folder hp hfile]
        exact and_congr_right fun _ => and_congr_right fun _ => ih

/-- Every path leads to the same place as before. -/
theorem locate_put (hp : f.locate path = .ok p) (hfile : f.entry? p ≠ some .folder) (bytes : List UInt8)
    {other : List Char} {place : Place} :
    { f with files := put p bytes f.files }.locate other = .ok place ↔ f.locate other = .ok place := by
  rw [locate, locate]
  split_ifs
  · rfl
  · rfl
  · rfl
  · exact walk_put hp hfile bytes
  · exact walk_put hp hfile bytes

/-! ### Writing and reading -/

/-- What writing does if it succeeds: the file at the end of the path is put there. -/
theorem writeText_eq_ok {text : List Char} {g : Folder} :
    f.writeText path text = .ok g ↔
      ∃ place, f.locate path = .ok place ∧ f.entry? place ≠ some .folder ∧ path.getLast? ≠ some '/'
        ∧ g = { f with files := put place (Text.Utf8.encode text) f.files } := by
  rw [writeText]
  cases f.locate path with
  | error e => simp [bind, Except.bind]
  | ok place =>
      simp only [bind, Except.bind, Except.ok.injEq, exists_eq_left']
      cases hentry : f.entry? place with
      | none => grind
      | some entry => cases entry <;> grind

theorem readText_of_writeText {text : List Char} {g : Folder} (h : f.writeText path text = .ok g) :
    g.readText path = .ok text := by
  obtain ⟨place, hplace, hfolder, hlast, rfl⟩ := writeText_eq_ok.1 h
  have hlocate := (locate_put hplace hfolder (Text.Utf8.encode text)).2 hplace
  simp only [readText, read, hlocate, entry?_put_self, bind, Except.bind, if_neg hlast, Text.Utf8.decode?_encode]

/-- A file that is written keeps what another path leads to. -/
theorem readText_of_ne {text other : List Char} {g : Folder} (h : f.writeText path text = .ok g)
    (hp : f.locate path = .ok p) (hq : f.locate other = .ok q) (hne : q ≠ p) :
    g.readText other = f.readText other := by
  obtain ⟨place, hplace, hfolder, -, rfl⟩ := writeText_eq_ok.1 h
  obtain rfl : place = p := Except.ok.inj (hplace.symm.trans hp)
  have hlocate := (locate_put hp hfolder (Text.Utf8.encode text)).2 hq
  simp only [readText, read, hlocate, hq, bind, Except.bind, entry?_put_of_ne hp hne]

/-- Where a text can be written it can also be written after another one. -/
theorem exists_writeText_twice {other : List Char} (hp : f.locate path = .ok p) (hpfile : f.entry? p ≠ some .folder)
    (hplast : path.getLast? ≠ some '/') (hq : f.locate other = .ok q) (hqfile : f.entry? q ≠ some .folder)
    (hqlast : other.getLast? ≠ some '/') (text later : List Char) :
    ∃ g k, f.writeText path text = .ok g ∧ g.writeText other later = .ok k := by
  refine ⟨_, _, writeText_eq_ok.2 ⟨p, hp, hpfile, hplast, rfl⟩, writeText_eq_ok.2 ⟨q, ?_, ?_, hqlast, rfl⟩⟩
  · exact (locate_put hp hpfile _).2 hq
  · exact fun hfolder => hqfile ((entry?_put_folder hp hpfile _).1 hfolder)

/-- Two texts written one after the other. Both are there unless the two paths lead to the same place: then the
second is. -/
theorem writeText_twice {text other later : List Char} {g k : Folder} (hfirst : f.writeText path text = .ok g)
    (hsecond : g.writeText other later = .ok k) :
    ∃ p q, f.locate path = .ok p ∧ f.locate other = .ok q
      ∧ k.readText other = .ok later ∧ k.readText path = .ok (if p = q then later else text)
      ∧ k.current = f.current ∧ k.folders = f.folders
      ∧ ∀ place, place ≠ p → place ≠ q → k.entry? place = f.entry? place := by
  obtain ⟨p, hp, hpfile, hplast, hg⟩ := writeText_eq_ok.1 hfirst
  obtain ⟨q, hq, hqfile, hqlast, hk⟩ := writeText_eq_ok.1 hsecond
  have hkeeps : ∀ {path : List Char} {place : Place}, g.locate path = .ok place ↔ f.locate path = .ok place := by
    rw [hg]
    exact locate_put hp hpfile _
  have hlater := readText_of_writeText hsecond
  refine ⟨p, q, hp, hkeeps.1 hq, hlater, ?_, by rw [hk, hg], by rw [hk, hg], fun place hplace hother => ?_⟩
  · split_ifs with hsame
    · -- Both paths lead to the file, and neither ends in a slash.
      have hlocate : ∀ {path : List Char} {place : Place}, k.locate path = .ok place ↔ g.locate path = .ok place := by
        rw [hk]
        exact locate_put hq hqfile _
      rw [← hlater, readText, readText, read, read, hlocate.2 (hkeeps.2 hp), hlocate.2 hq, hsame]
      simp only [bind, Except.bind, if_neg hplast, if_neg hqlast]
    · rw [readText_of_ne hsecond hq (hkeeps.2 hp) hsame, readText_of_writeText hfirst]
  · rw [hk, entry?_put_of_ne hq hother, hg, entry?_put_of_ne hp hplace]

end LinkSurvey.Folder
