import LinkSurvey.Fetch.Budget
import LinkSurvey.Fetch.Failure
import LinkSurvey.Text.Utf8
import LinkSurvey.Url.Resolve

/-!
The URL that a request is made for, and the requests that cannot be made.
-/

namespace LinkSurvey.Fetch

/-- A byte that a header may hold: a tab, or anything but a control character. -/
def isHeaderByte (b : UInt8) : Bool :=
  b == 9 || (32 ≤ b && b != 127)

/-- A client with whose name in the header no request could be made is refused at once. -/
def Client.check (client : Client) : Except Failure Unit :=
  if (Text.Utf8.encode client.userAgent.toList).all isHeaderByte then .ok ()
  else .error (.request (.malformed none "failed to parse header value"))

namespace Request

/-- Whether a URL names somebody who could be asked. -/
def hasHost (u : Url) : Bool :=
  match u.authority with
  | some a => !a.host.text.isEmpty
  | none => false

/-- The URL without user and password, which are sent in a header of their own if the name of the user
can be read. -/
def withoutCredentials (u : Url) : Url :=
  match u.authority with
  | some a =>
    match Text.Utf8.decode? (Url.percentDecode a.user) with
    | some _ => { u with authority := some { a with user := [], password := [] } }
    | none => u
  | none => u

/-- Characters that stand for themselves anywhere in front of the path of a request. -/
def isPlain (c : Char) : Bool :=
  c.isAlphanum || "!$&'()*+,-.;=_~".toList.contains c

/-- What has been read of an authority. The user in front of an `@` and an address in brackets may hold
colons, and the user escapes, that nothing else may hold. -/
structure AuthorityScan where
  colons : Nat := 0
  hasEscape : Bool := false
  isOpened : Bool := false
  isClosed : Bool := false
  endsWithAt : Bool := false

def AuthorityScan.step (s : AuthorityScan) (c : Char) : Option AuthorityScan :=
  let next := { s with endsWithAt := false }
  if c == ':' then
    if 8 ≤ s.colons then none else some { next with colons := s.colons + 1 }
  else if c == '[' then
    if s.hasEscape || s.isOpened then none else some { next with isOpened := true }
  else if c == ']' then
    if !s.isOpened || s.isClosed then none
    else some { next with isClosed := true, colons := 0, hasEscape := false }
  else if c == '@' then some { s with endsWithAt := true, colons := 0, hasEscape := false }
  else if c == '%' then some { next with hasEscape := true }
  else if isPlain c then some next
  else none

/-- Whether a text can name somebody in the line of a request. -/
def isAuthority (text : List Char) : Bool :=
  match text.foldlM AuthorityScan.step {} with
  | some s => s.isOpened == s.isClosed && s.colons ≤ 1 && !s.endsWithAt && !s.hasEscape
  | none => false

/-- Whether a URL can stand in the line of a request. One without two slashes is taken for the name of
somebody as a whole, so it may have no path, query or fragment. -/
def isSendable (u : Url) : Bool :=
  u.text.length ≤ 65534
    && match u.authority with
      | some a => u.scheme.length ≤ 64 && !a.text.isEmpty && isAuthority a.text
      | none => isAuthority u.text

def malformed (u : Url) (detail : String) : Failure :=
  .request (.malformed (some u.toString) detail)

/-- Only pages of the web are asked for. -/
def checkScheme (u : Url) : Except Failure Unit :=
  if u.isHttp then .ok () else .error (malformed u "URL scheme is not allowed")

/-- The URL to ask for. -/
def ofUrl (u : Url) : Except Failure Url :=
  if !hasHost u then .error (malformed u "URL scheme is not allowed")
  else do
    let u := withoutCredentials u
    checkScheme u
    if isSendable u then .ok u else .error (malformed u "Parsed Url is not a valid Uri")

def ofText (url : String) : Except Failure Url :=
  match Url.parse url with
  | .error e => .error (.request (.malformed none e.message))
  | .ok u => ofUrl u

/-- What the other end is asked for. The fragment stays with whoever asks. -/
def target (u : Url) : String :=
  { withoutCredentials u with fragment := none }.toString

end Request

end LinkSurvey.Fetch
