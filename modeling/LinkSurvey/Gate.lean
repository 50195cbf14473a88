import LinkSurvey.Text.Blank
import LinkSurvey.Url.Resolve

/-!
The gate: which of the strings found on a page are accepted as links, and in what form. A candidate is
resolved against the page, and only `http` and `https` URLs pass.
-/

namespace LinkSurvey

/-- Why a candidate is refused. -/
inductive Rejection where
  | mailto
  | unresolvable (cause : UrlError)
  | scheme (name : List Char)
  deriving DecidableEq, Repr

def Rejection.message : Rejection → String
  | .mailto => "mailto link"
  | .unresolvable cause => "cannot resolve: " ++ cause.message
  | .scheme name => "unsupported scheme: " ++ String.ofList name

/-- A URL that passed the gate. -/
structure WebUrl where
  url : Url
  isHttp : url.isHttp = true
  deriving DecidableEq

namespace WebUrl

def text (u : WebUrl) : List Char :=
  u.url.text

def toString (u : WebUrl) : String :=
  String.ofList u.text

end WebUrl

namespace Gate

/-- After leading blanks, `mailto:` in any letter case. -/
def isMailto (candidate : List Char) : Bool :=
  ((Text.trimStart candidate).take 7).map Char.toLower == ['m', 'a', 'i', 'l', 't', 'o', ':']

/-- Accept a resolved URL by its scheme. -/
def ofUrl (u : Url) : Except Rejection WebUrl :=
  if h : u.isHttp = true then .ok ⟨u, h⟩ else .error (.scheme u.scheme)

/-- The link that a candidate found on the page `base` stands for. -/
def normalize (base : Url) (candidate : List Char) : Except Rejection WebUrl :=
  if isMailto candidate then .error .mailto
  else
    match Url.resolve (some base) candidate with
    | .error e => .error (.unresolvable e)
    | .ok u => ofUrl u

end Gate

end LinkSurvey
