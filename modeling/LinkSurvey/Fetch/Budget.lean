/-!
How long a fetch with retries may take. Times are whole seconds and nanoseconds that stop at the
longest time instead of growing past it.
-/

namespace LinkSurvey.Fetch

/-- A length of time in nanoseconds, at most `Span.longest`. -/
structure Span where
  nanos : Nat
  le_longest : nanos ≤ 18446744073709551615999999999 := by decide
  deriving DecidableEq

namespace Span

def nanosPerSecond : Nat := 1000000000

/-- The seconds of a span fit into 64 bits. -/
def longest : Span := ⟨18446744073709551615999999999, Nat.le_refl _⟩

/-- The span of that many nanoseconds, or the longest one. -/
def ofNanos (n : Nat) : Span :=
  ⟨min n 18446744073709551615999999999, Nat.min_le_right _ _⟩

def ofSeconds (s : UInt64) : Span :=
  ofNanos (s.toNat * nanosPerSecond)

def ofMillis (ms : UInt64) : Span :=
  ofNanos (ms.toNat * 1000000)

def add (a b : Span) : Span :=
  ofNanos (a.nanos + b.nanos)

def scale (a : Span) (n : UInt32) : Span :=
  ofNanos (a.nanos * n.toNat)

def seconds (a : Span) : Nat :=
  a.nanos / nanosPerSecond

def subsecond (a : Span) : Nat :=
  a.nanos % nanosPerSecond

end Span

/-- How pages and scripts are fetched. -/
structure Client where
  timeoutSecs : UInt64 := 30
  maxRetries : UInt32 := 3
  userAgent : String := "Mozilla/5.0 (compatible; urlharvest/0.1)"

/-- Allowance per attempt for waiting on the rate limiter. -/
def rateLimitSlack : Span := .ofSeconds 1

/-- The pause before the `retry`-th retry. -/
def pause (retry : UInt32) : Span :=
  (Span.ofMillis 500).scale retry

def UInt64.satMul (a b : UInt64) : UInt64 :=
  UInt64.ofNat (min (a.toNat * b.toNat) 18446744073709551615)

def UInt32.satSucc (a : UInt32) : UInt32 :=
  UInt32.ofNat (min (a.toNat + 1) 4294967295)

/-- An upper bound on one fetch: every attempt at the full timeout, the pauses between attempts, and
some slack for the rate limiter. The sum of the pauses is counted in half seconds. -/
def budget (client : Client) : Span :=
  let attempts := UInt32.satSucc client.maxRetries
  let perAttempt := (Span.ofSeconds client.timeoutSecs).add rateLimitSlack
  let retries := client.maxRetries.toUInt64
  let steps := retries * (retries + 1) / 2
  (perAttempt.scale attempts).add (.ofMillis (UInt64.satMul steps 500))

end LinkSurvey.Fetch
