import LinkSurvey.Markup
import LinkSurvey.UrlSet

/-!
Which scripts of a page are to be read. A source that the gate accepts is fetched once, however often
and in whatever spelling the page refers to it.
-/

namespace LinkSurvey.Survey

inductive Job where
  | external (url : WebUrl)
  | inline (index : Nat) (text : List Char)
  deriving DecidableEq

/-- The jobs for scripts, when `queued` are already planned and `index` inline scripts came before. -/
def planFrom (base : Url) (queued : List WebUrl) (index : Nat) : List Markup.Script → List Job
  | [] => []
  | .inline text :: rest => .inline index text :: planFrom base queued (index + 1) rest
  | .external source :: rest =>
    match Gate.normalize base source with
    | .error _ => planFrom base queued index rest
    | .ok url =>
      if queued.any (·.text == url.text) then planFrom base queued index rest
      else .external url :: planFrom base (url :: queued) index rest

/-- The jobs for the scripts of a page, in the order of the scripts. -/
def plan (base : Url) (scripts : List Markup.Script) : List Job :=
  planFrom base [] 0 scripts

end LinkSurvey.Survey
