import LinkSurvey.Json
import LinkSurvey.Survey.Report

/-!
The documents that a survey leaves: the list of links as lines or as a JSON array, and the reports as
JSON. Variants are told apart by a member that names them, which comes first in its object.
-/

namespace LinkSurvey

/-- One link per line. -/
def UrlSet.lines (s : UrlSet) : List Char :=
  s.texts.flatMap (· ++ ['\n'])

def UrlSet.toJson (s : UrlSet) : Json :=
  .array (s.texts.map .string)

def ParseStatus.toJson : ParseStatus → Json
  | .clean => .ofMembers [("state", .ofString "clean")]
  | .degraded errors => .ofMembers [("state", .ofString "degraded"), ("errors", .ofNat errors)]
  | .failed => .ofMembers [("state", .ofString "failed")]

def Origin.toJson : Origin → Json
  | .external url => .ofMembers [("kind", .ofString "external"), ("url", .ofString url)]
  | .inline index => .ofMembers [("kind", .ofString "inline"), ("index", .ofNat index)]

def ScriptFate.toJson : ScriptFate → Json
  | .parsed status => .ofMembers [("result", .ofString "parsed"), ("parse", status.toJson)]
  | .fetchFailed error =>
    .ofMembers [("result", .ofString "fetch_failed"), ("error", .ofString error)]
  | .tooLarge => .ofMembers [("result", .ofString "too_large")]

/-- A value that may be absent. -/
def Json.ofOption {α : Type} (toJson : α → Json) : Option α → Json
  | none => .null
  | some a => toJson a

def ScriptRecord.toJson (r : ScriptRecord) : Json :=
  .ofMembers [
    ("origin", r.origin.toJson),
    ("bytes", .ofNat r.bytes),
    ("content_hash", .ofOption .ofString r.digest),
    ("status", r.fate.toJson),
    ("candidates", .ofNat r.candidates)]

def TimedReport.toJson (r : TimedReport) : Json :=
  .ofMembers [
    ("target", .ofString r.target),
    ("urls", r.urls.toJson),
    ("markup", .ofOption ParseStatus.toJson r.markup),
    ("scripts", .array (r.scripts.map ScriptRecord.toJson)),
    ("duration_secs", .ofFloat r.seconds),
    ("errors", .array (r.errors.map .ofString))]

/-- The document of several reports. -/
def TimedReport.document (reports : List TimedReport) : Json :=
  .array (reports.map toJson)

end LinkSurvey
