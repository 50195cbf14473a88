import LinkSurvey.Fetch.Attempt
import LinkSurvey.Fetch.Source

/-!
Fetching with retries. Every attempt but the last one failed in a way that may pass, and the pauses
between attempts grow with their number.
-/

namespace LinkSurvey.Fetch

/-- Whether another attempt may help: not if the request is at fault. -/
def Failure.isRetryable : Failure → Bool
  | .status code _ => !(400 ≤ code && code < 500)
  | .request (.malformed _ _) => false
  | _ => true

/-- The whole course of a fetch. -/
structure Course where
  body : Except Failure (List Char)
  /-- The attempts that were made, in order. -/
  attempts : List Attempt
  /-- The pauses between the attempts, in order. -/
  pauses : List Span := []
  notes : List Note := []

namespace Course

/-- The exact time that a fetch took, in nanoseconds. -/
def span (c : Course) : Nat :=
  c.attempts.foldr (fun a t => a.lasts + t) (c.pauses.foldr (fun p t => p.nanos + t) 0)

def requests (c : Course) : List String :=
  c.attempts.flatMap Attempt.requests

/-- A fetch that ends with the attempt after `retries` retries. -/
def ending (url : String) (retries : Nat) (attempt : Attempt) : Course :=
  let note : Note :=
    match attempt.outcome with
    | .ok body =>
      ⟨.detail, "Fetched " ++ url ++ " (" ++ toString (Text.Utf8.encode body).length ++ " bytes)"⟩
    | .error failure =>
      if !failure.isRetryable then ⟨.detail, "Not retrying " ++ url ++ ": " ++ failure.message⟩
      else if retries = 0 then ⟨.detail, "Failed to fetch " ++ url ++ ": " ++ failure.message⟩
      else
        ⟨.warning, "Failed to fetch " ++ url ++ " after " ++ toString retries ++ " retries: "
          ++ failure.message⟩
  { body := attempt.outcome, attempts := [attempt], notes := [note] }

/-- The course of a fetch from the attempt after `retries` retries on, if there are `left` retries
left. -/
def ofAttempts (url : String) (attempts : Nat → Attempt) : (left retries : Nat) → Course
  | 0, retries => ending url retries (attempts retries)
  | left + 1, retries =>
    let attempt := attempts retries
    match attempt.outcome with
    | .error failure =>
      if failure.isRetryable then
        let rest := ofAttempts url attempts left (retries + 1)
        { rest with
          attempts := attempt :: rest.attempts
          pauses := pause (.ofNat (retries + 1)) :: rest.pauses }
      else ending url retries attempt
    | .ok _ => ending url retries attempt

end Course

/-- Fetch a URL over a network. -/
def Client.fetch (client : Client) (network : Network) (url : String) : Course :=
  Course.ofAttempts url (network.attempt client url) client.maxRetries.toNat 0

/-- A network seen through a client, as a source of bodies. -/
def Client.source (client : Client) (network : Network) : Source := fun url =>
  let course := client.fetch network url
  ⟨course.span, { body := course.body, notes := course.notes }⟩

end LinkSurvey.Fetch
