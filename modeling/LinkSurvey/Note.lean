/-!
What a run tells while it is under way, for a log.
-/

namespace LinkSurvey

/-- How much a note matters, the most serious first. -/
inductive Level where
  | error
  | warning
  | information
  | detail
  deriving DecidableEq, Repr

def Level.rank : Level → Nat
  | .error => 0
  | .warning => 1
  | .information => 2
  | .detail => 3

def Level.label : Level → String
  | .error => "ERROR"
  | .warning => " WARN"
  | .information => " INFO"
  | .detail => "DEBUG"

structure Note where
  level : Level
  text : String
  deriving DecidableEq, Repr

/-- The line of a log, or nothing if the note matters less than `threshold`. -/
def Note.line (threshold : Level) (note : Note) : String :=
  if note.level.rank ≤ threshold.rank then note.level.label ++ " " ++ note.text ++ "\n" else ""

end LinkSurvey
