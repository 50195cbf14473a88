import LinkSurvey.Console
import LinkSurvey.Survey

/-!
A survey as it appears on a terminal: its notices for people and, where there is a log, its notes.
-/

namespace LinkSurvey.Console

/-- What a notice puts on the terminal; `log` is how much a note must matter, if there is a log. -/
def notice (c : Console) (log : Option Level) : Survey.Notice → String
  | .start target => c.scanStart target
  | .progress message => c.progress message
  | .note note => log.elim "" note.line
  | .done report => c.summary report

def narration (c : Console) (log : Option Level) (notices : List (Dated Survey.Notice)) : String :=
  String.join (notices.map fun n => c.notice log n.value)

end LinkSurvey.Console
