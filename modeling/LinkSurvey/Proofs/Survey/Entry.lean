import LinkSurvey.Proofs.Json.Number
import LinkSurvey.Survey.Entry

/-!
The document of a list of reports says what the reports say. Its text is that of one document, and from the
document every report is read back with its target, its links, and all there is to its markup, its scripts and
its errors. A tag names the variant of every value that has variants, so no two variants are written alike; and
a string is written so that no character of it can end it. How long a survey took is told but not read.
-/

namespace LinkSurvey

namespace Json

/-! ### Documents that are written -/

theorem isProper_ofMembers {members : List (String × Json)} (h : ∀ member ∈ members, member.2.IsProper) :
    IsProper (.ofMembers members) := by
  refine .object fun member hmember => ?_
  obtain ⟨source, hsource, rfl⟩ := List.mem_map.1 hmember
  exact h source hsource

theorem isProper_map {α : Type} {toJson : α → Json} (h : ∀ a, (toJson a).IsProper) (l : List α) :
    IsProper (.array (l.map toJson)) :=
  .array (List.forall_mem_map.2 fun a _ => h a)

theorem isProper_ofOption {α : Type} {toJson : α → Json} (h : ∀ a, (toJson a).IsProper) (o : Option α) :
    (ofOption toJson o).IsProper := by
  cases o with
  | none => exact .null
  | some a => exact h a

theorem isProper_ofString (s : String) : (ofString s).IsProper :=
  .string s.toList

/-! ### Parts that are read -/

/-- A member is found by its name. -/
@[simp] theorem member?_ofMembers (key : String) (members : List (String × Json)) :
    (ofMembers members).member? key = members.lookup key := by
  rw [ofMembers, member?]
  induction members with
  | nil => rfl
  | cons member members ih =>
      obtain ⟨name, value⟩ := member
      have hkey : (key.toList == name.toList) = (key == name) := by
        rw [Bool.eq_iff_iff, beq_iff_eq, beq_iff_eq, String.toList_inj]
      rw [List.map_cons, List.lookup_cons, List.lookup_cons, ih, hkey]

@[simp] theorem string?_ofString (s : String) : (ofString s).string? = some s := by
  rw [ofString, string?, text?, Option.map_some, String.ofList_toList]

@[simp] theorem nat?_ofNat (n : Nat) : (ofNat n).nat? = some n := by
  have hdigits : (Nat.toDigits 10 n).all Char.isDigit = true :=
    List.all_eq_true.2 (isDigits_toDigits n).digits
  rw [ofNat, nat?, if_pos hdigits, Nat.ofDigitChars_toDigits (by decide) (by decide)]

theorem list?_map {α β : Type} {toJson : α → Json} {ofJson? : Json → Option β} {f : α → β}
    (h : ∀ a, ofJson? (toJson a) = some (f a)) (l : List α) :
    (array (l.map toJson)).list? ofJson? = some (l.map f) := by
  rw [list?]
  induction l with
  | nil => rfl
  | cons a l ih =>
      rw [List.map_cons, List.mapM_cons, h, ih]
      rfl

theorem list?_map_self {α : Type} {toJson : α → Json} {ofJson? : Json → Option α}
    (h : ∀ a, ofJson? (toJson a) = some a) (l : List α) : (array (l.map toJson)).list? ofJson? = some l := by
  rw [list?_map h, List.map_id']

theorem option?_ofOption {α : Type} {toJson : α → Json} {ofJson? : Json → Option α}
    (h : ∀ a, ofJson? (toJson a) = some a) (hnull : ∀ a, toJson a ≠ .null) (o : Option α) :
    (ofOption toJson o).option? ofJson? = some o := by
  cases o with
  | none => rfl
  | some a => rw [ofOption, option?.eq_2 _ _ (hnull a), h, Option.map_some]

end Json

open Json

/-! ### Links -/

theorem UrlSet.isProper_toJson (s : UrlSet) : s.toJson.IsProper :=
  isProper_map Json.IsProper.string s.texts

theorem UrlSet.textsOfJson?_toJson (s : UrlSet) : textsOfJson? s.toJson = some s.texts := by
  have hstring : ∀ text : List Char, (Json.string text).text? = some text := fun _ => rfl
  exact list?_map_self hstring s.texts

/-! ### Records -/

theorem ParseStatus.isProper_toJson (s : ParseStatus) : s.toJson.IsProper := by
  cases s with
  | clean => exact isProper_ofMembers (by simp [isProper_ofString])
  | degraded errors => exact isProper_ofMembers (by simp [isProper_ofString, isProper_ofNat])
  | failed => exact isProper_ofMembers (by simp [isProper_ofString])

theorem ParseStatus.ofJson?_toJson (s : ParseStatus) : ofJson? s.toJson = some s := by
  cases s <;> simp [toJson, ofJson?, List.lookup_cons]

theorem Origin.isProper_toJson (o : Origin) : o.toJson.IsProper := by
  cases o with
  | external url => exact isProper_ofMembers (by simp [isProper_ofString])
  | inline index => exact isProper_ofMembers (by simp [isProper_ofString, isProper_ofNat])

theorem Origin.ofJson?_toJson (o : Origin) : ofJson? o.toJson = some o := by
  cases o <;> simp [toJson, ofJson?, List.lookup_cons]

theorem ScriptFate.isProper_toJson (f : ScriptFate) : f.toJson.IsProper := by
  cases f with
  | parsed status => exact isProper_ofMembers (by simp [isProper_ofString, status.isProper_toJson])
  | fetchFailed error => exact isProper_ofMembers (by simp [isProper_ofString])
  | tooLarge => exact isProper_ofMembers (by simp [isProper_ofString])

theorem ScriptFate.ofJson?_toJson (f : ScriptFate) : ofJson? f.toJson = some f := by
  cases f <;> simp [toJson, ofJson?, ParseStatus.ofJson?_toJson, List.lookup_cons]

theorem ScriptRecord.isProper_toJson (r : ScriptRecord) : r.toJson.IsProper := by
  have hdigest : (ofOption Json.ofString r.digest).IsProper := isProper_ofOption isProper_ofString r.digest
  exact isProper_ofMembers (by
    simp [isProper_ofNat, r.origin.isProper_toJson, hdigest, r.fate.isProper_toJson])

theorem ScriptRecord.ofJson?_toJson (r : ScriptRecord) : ofJson? r.toJson = some r := by
  have hdigest : (ofOption Json.ofString r.digest).option? Json.string? = some r.digest :=
    option?_ofOption string?_ofString (fun s h => by cases h) r.digest
  simp [toJson, ofJson?, Origin.ofJson?_toJson, hdigest, ScriptFate.ofJson?_toJson, List.lookup_cons]

/-! ### Reports -/

theorem ParseStatus.toJson_ne_null (s : ParseStatus) : s.toJson ≠ .null := by
  cases s <;> exact fun h => by cases h

theorem TimedReport.isProper_toJson (r : TimedReport) : r.toJson.IsProper := by
  have hmarkup : (ofOption ParseStatus.toJson r.markup).IsProper :=
    isProper_ofOption ParseStatus.isProper_toJson r.markup
  have hscripts := isProper_map ScriptRecord.isProper_toJson r.scripts
  have herrors := isProper_map isProper_ofString r.errors
  exact isProper_ofMembers (by
    simp [isProper_ofString, r.urls.isProper_toJson, hmarkup, hscripts, isProper_ofFloat, herrors])

theorem PageEntry.ofJson?_toJson (r : TimedReport) : ofJson? r.toJson = some r.entry := by
  have hmarkup : (ofOption ParseStatus.toJson r.markup).option? ParseStatus.ofJson? = some r.markup :=
    option?_ofOption ParseStatus.ofJson?_toJson ParseStatus.toJson_ne_null r.markup
  have hscripts := list?_map_self ScriptRecord.ofJson?_toJson r.scripts
  have herrors := list?_map_self string?_ofString r.errors
  simp [TimedReport.toJson, ofJson?, UrlSet.textsOfJson?_toJson, hmarkup, hscripts, herrors, PageReport.entry,
    List.lookup_cons]

theorem TimedReport.isProper_document (reports : List TimedReport) : (document reports).IsProper :=
  isProper_map TimedReport.isProper_toJson reports

theorem PageEntry.ofDocument?_document (reports : List TimedReport) :
    ofDocument? (TimedReport.document reports) = some (reports.map fun r => r.entry) :=
  list?_map ofJson?_toJson reports

/-- The text of the document of several reports is that of one document, from which all reports are read in their
order, each as it is but for its time. So reports of which one differs in anything else from the one in its place
are not written alike. -/
theorem PageEntry.read_document (reports : List TimedReport) :
    Json.ofText? (TimedReport.document reports).text = some (TimedReport.document reports)
      ∧ (Json.ofText? (TimedReport.document reports).text).bind ofDocument? = some (reports.map fun r => r.entry)
      ∧ ∀ others : List TimedReport, (TimedReport.document others).text = (TimedReport.document reports).text →
        (others.map fun r => r.entry) = reports.map fun r => r.entry := by
  have hread : ∀ l : List TimedReport,
      (Json.ofText? (TimedReport.document l).text).bind ofDocument? = some (l.map fun r => r.entry) := by
    intro l
    rw [(TimedReport.isProper_document l).ofText?_text, Option.bind_some, ofDocument?_document]
  refine ⟨(TimedReport.isProper_document reports).ofText?_text, hread reports, fun others htext => ?_⟩
  have hothers := hread others
  rw [htext, hread reports] at hothers
  exact (Option.some.inj hothers).symm

end LinkSurvey
