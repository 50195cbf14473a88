import LinkSurvey.Fetch.Budget
import LinkSurvey.Fetch.Failure
import LinkSurvey.Note
import LinkSurvey.Timed

/-!
Where bodies come from. A source is asked for a URL and answers after some time; whoever asks sets a
limit to that time.
-/

namespace LinkSurvey.Fetch

/-- The end of a fetch, with what was noted on the way. -/
structure Answer where
  body : Except Failure (List Char)
  notes : List Note := []

/-- What every URL is answered with, and how soon. -/
abbrev Source := String → Timed Answer

/-- Ask for a URL, but give up when the limit has passed. -/
def Source.within (source : Source) (limit : Span) (url : String) : Timed Answer :=
  let answer := source url
  if limit.nanos < answer.span then ⟨limit.nanos, { body := .error (.timedOut url) }⟩ else answer

end LinkSurvey.Fetch
