/-!
Why a page or a script could not be fetched, and how that is told.
-/

namespace LinkSurvey.Fetch

/-- How a single request fails. -/
inductive RequestFault where
  /-- No request can be made of what was given. -/
  | malformed (url : Option String) (detail : String)
  /-- Nobody listens at the other end. -/
  | unreachable (url : String)
  /-- The connection ended without a reply. -/
  | dropped (url : String)
  /-- No reply came in time. -/
  | stalled (url : String)
  /-- The reply ended before its body did. -/
  | cutShort
  | tooManyRedirects (url : String)
  deriving DecidableEq, Repr

def RequestFault.message : RequestFault → String
  | .malformed none detail => "builder error: " ++ detail
  | .malformed (some url) detail => "builder error for url (" ++ url ++ "): " ++ detail
  | .unreachable url =>
    "error sending request for url (" ++ url
      ++ "): error trying to connect: tcp connect error: Network is unreachable (os error 101)"
  | .dropped url =>
    "error sending request for url (" ++ url ++ "): connection closed before message completed"
  | .stalled url => "error sending request for url (" ++ url ++ "): operation timed out"
  | .cutShort =>
    "request or response body error: error reading a body from connection: "
      ++ "end of file before message length reached"
  | .tooManyRedirects url =>
    "error following redirect for url (" ++ url ++ "): too many redirects"

/-- Why a fetch gave no body. -/
inductive Failure where
  | request (fault : RequestFault)
  /-- A reply whose status is none of success. -/
  | status (code : Nat) (url : String)
  | timedOut (url : String)
  | unavailable (detail : String)
  deriving DecidableEq, Repr

def Failure.message : Failure → String
  | .request fault => "HTTP request failed: " ++ fault.message
  | .status code url => "HTTP " ++ toString code ++ " from " ++ url
  | .timedOut url => "Request to " ++ url ++ " timed out"
  | .unavailable detail => "Fetch failed: " ++ detail

end LinkSurvey.Fetch
