import LinkSurvey.Fetch.Request
import LinkSurvey.Timed

/-!
One attempt at a URL: a request, and further requests as long as the replies point elsewhere. The
timeout is one for all of them.
-/

namespace LinkSurvey.Fetch

structure Response where
  status : Nat := 200
  location : Option String := none
  /-- Absent if the connection ended before the body did. -/
  body : Option (List Char) := some []

/-- What comes back for a request. -/
inductive Reply where
  | response (r : Response)
  | dropped
  | stalled

/-- What can be reached. A request for a URL during an attempt finds nobody, or gets its reply. -/
structure Network where
  reply : (attempt : Nat) → (url : String) → Option (Timed Reply)

/-- Nobody can be reached. -/
def Network.unreachable : Network := ⟨fun _ _ => none⟩

structure Attempt where
  outcome : Except Failure (List Char)
  /-- The time in nanoseconds that it took. -/
  lasts : Nat
  /-- The URLs of the requests that somebody got. -/
  requests : List String := []

def Response.isRedirect (r : Response) : Bool :=
  [301, 302, 303, 307, 308].any (· == r.status)

def Response.isSuccess (r : Response) : Bool :=
  200 ≤ r.status && r.status < 300

/-- Where a response points to, if a request could be made for it. One that points nowhere is a response
like any other. -/
def Response.destination? (r : Response) (asked : Url) : Option Url :=
  if r.isRedirect then
    r.location.bind fun l => (Url.join asked l).toOption.filter Request.isSendable
  else none

/-- What a response that points nowhere is worth to somebody who wanted `url`. -/
def Response.outcome (r : Response) (url : String) : Except Failure (List Char) :=
  if r.isSuccess then
    match r.body with
    | some body => .ok body
    | none => .error (.request .cutShort)
  else .error (.status r.status url)

/-- How many times an attempt follows a redirect. -/
def redirectLimit : Nat := 5

/-- Ask for `asked` on behalf of `url`, when so many redirects may still be followed and some time of the
`limit` has passed. -/
def follow (ask : String → Option (Timed Reply)) (limit : Nat) (url : String) :
    (redirects : Nat) → (passed : Nat) → (asked : Url) → Attempt
  | redirects, passed, asked =>
    match ask (Request.target asked) with
    | none => ⟨.error (.request (.unreachable asked.toString)), passed, []⟩
    | some reply =>
      let now := passed + reply.span
      let requests := [Request.target asked]
      if limit < now then ⟨.error (.request (.stalled asked.toString)), limit, requests⟩
      else
        match reply.value with
        | .stalled => ⟨.error (.request (.stalled asked.toString)), limit, requests⟩
        | .dropped => ⟨.error (.request (.dropped asked.toString)), now, requests⟩
        | .response r =>
          match r.destination? asked, redirects with
          | none, _ => ⟨r.outcome url, now, requests⟩
          | some _, 0 => ⟨.error (.request (.tooManyRedirects asked.toString)), now, requests⟩
          | some next, redirects + 1 =>
            match Request.checkScheme next with
            | .error failure => ⟨.error failure, now, requests⟩
            | .ok () =>
              let rest := follow ask limit url redirects now next
              { rest with requests := requests ++ rest.requests }

/-- The attempt with a number at a URL. -/
def Network.attempt (network : Network) (client : Client) (url : String) (n : Nat) : Attempt :=
  match Request.ofText url with
  | .error failure => ⟨.error failure, 0, []⟩
  | .ok asked =>
    follow (network.reply n) (Span.ofSeconds client.timeoutSecs).nanos url redirectLimit 0 asked

end LinkSurvey.Fetch
