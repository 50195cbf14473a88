import LinkSurvey.Fetch.Retry
import LinkSurvey.Settings
import Mathlib.Algebra.Group.Nat.Even
import Mathlib.Tactic.Ring

/-!
The longest time that a fetch with retries can take, against its budget. Both are sums of the attempts
and of the pauses between them. The budget counts the pauses in milliseconds that fit into 64 bits, so it
covers every fetch up to a certain number of retries; past it the pauses alone are longer than what is
counted for them, and only a budget that is the longest time of all is enough.
-/

namespace LinkSurvey.Fetch

/-! ### Times that stop at the longest one -/

namespace Span

@[simp] theorem nanos_longest : longest.nanos = 18446744073709551615999999999 := rfl

@[simp] theorem nanos_ofNanos (n : Nat) : (ofNanos n).nanos = min n longest.nanos := rfl

@[simp] theorem nanos_add (a b : Span) : (a.add b).nanos = min (a.nanos + b.nanos) longest.nanos := rfl

@[simp] theorem nanos_scale (a : Span) (n : UInt32) :
    (a.scale n).nanos = min (a.nanos * n.toNat) longest.nanos := rfl

theorem nanos_ofSeconds (s : UInt64) : (ofSeconds s).nanos = s.toNat * nanosPerSecond := by
  have hs := s.toNat_lt
  simp only [ofSeconds, nanos_ofNanos, nanos_longest, nanosPerSecond]
  omega

theorem nanos_ofMillis (ms : UInt64) : (ofMillis ms).nanos = ms.toNat * 1000000 := by
  have hms := ms.toNat_lt
  simp only [ofMillis, nanos_ofNanos, nanos_longest]
  omega

theorem eq_longest_iff (a : Span) : a = longest ↔ longest.nanos ≤ a.nanos := by
  constructor
  · rintro rfl
    exact Nat.le_refl _
  · intro h
    have hle := a.le_longest
    cases a with
    | mk n _ =>
        have hn : n = longest.nanos := Nat.le_antisymm hle h
        subst hn
        rfl

end Span

theorem toNat_satMul (a b : UInt64) : (UInt64.satMul a b).toNat = min (a.toNat * b.toNat) (2 ^ 64 - 1) := by
  rw [UInt64.satMul, UInt64.toNat_ofNat']
  exact Nat.mod_eq_of_lt (by omega)

theorem toNat_satSucc (a : UInt32) : (UInt32.satSucc a).toNat = min (a.toNat + 1) (2 ^ 32 - 1) := by
  rw [UInt32.satSucc, UInt32.toNat_ofNat']
  exact Nat.mod_eq_of_lt (by omega)

theorem toNat_next (retries : UInt32) : (retries.toUInt64 + 1).toNat = retries.toNat + 1 := by
  have hretries := retries.toNat_lt
  rw [UInt64.toNat_add, UInt32.toNat_toUInt64]
  exact Nat.mod_eq_of_lt (by simp; omega)

theorem mul_next_lt (retries : UInt32) : retries.toNat * (retries.toNat + 1) < 2 ^ 64 := by
  have hretries := retries.toNat_lt
  calc retries.toNat * (retries.toNat + 1) ≤ (2 ^ 32 - 1) * 2 ^ 32 := Nat.mul_le_mul (by omega) (by omega)
    _ < 2 ^ 64 := by decide

/-- The sum of the numbers up to `n` in half fits into 64 bits at every step. -/
theorem toNat_pauseSteps (n : UInt32) :
    (n.toUInt64 * (n.toUInt64 + 1) / 2).toNat = n.toNat * (n.toNat + 1) / 2 := by
  rw [UInt64.toNat_div, UInt64.toNat_mul, toNat_next, UInt32.toNat_toUInt64, Nat.mod_eq_of_lt (mul_next_lt n)]
  rfl

/-- The attempts that a budget counts. -/
def countedAttempts (retries : UInt32) : Nat :=
  min (retries.toNat + 1) (2 ^ 32 - 1)

/-- The milliseconds of pauses that a budget counts. -/
def countedMillis (retries : UInt32) : Nat :=
  min (250 * (retries.toNat * (retries.toNat + 1))) (2 ^ 64 - 1)

theorem toNat_pauseMillis (retries : UInt32) :
    (UInt64.satMul (retries.toUInt64 * (retries.toUInt64 + 1) / 2) 500).toNat
      = countedMillis retries := by
  have hhalf := Nat.div_mul_cancel (Nat.even_mul_succ_self retries.toNat).two_dvd
  have hmillis : (500 : UInt64).toNat = 500 := rfl
  rw [toNat_satMul, toNat_pauseSteps, hmillis, countedMillis]
  congr 1
  omega

theorem nanos_pause {retry : Nat} (h : retry < 2 ^ 32) :
    (pause (.ofNat retry)).nanos = 500000000 * retry := by
  have hretry : (UInt32.ofNat retry).toNat = retry := by
    rw [UInt32.toNat_ofNat']
    exact Nat.mod_eq_of_lt h
  rw [pause, Span.nanos_scale, Span.nanos_ofMillis, hretry, Span.nanos_longest]
  have hms : (500 : UInt64).toNat = 500 := rfl
  rw [hms]
  omega

/-! ### The time of a course -/

/-- The timeout of a single attempt in nanoseconds. -/
def Client.timeoutNanos (client : Client) : Nat :=
  client.timeoutSecs.toNat * Span.nanosPerSecond

/-- The longest time of a fetch that may retry `retries` times, if no attempt lasts longer than
`timeout`: one attempt more than retries, and a pause of half a second times its number before each
retry. -/
def worstNanos (timeout retries : Nat) : Nat :=
  (retries + 1) * timeout + 250000000 * (retries * (retries + 1))

namespace Course

theorem span_ending (url : String) (retries : Nat) (attempt : Attempt) :
    (ending url retries attempt).span = attempt.lasts := by
  simp [ending, span]

/-- The course of a fetch that goes on after a failure. -/
theorem span_retry {url : String} {attempts : Nat → Attempt} {left retries : Nat} {failure : Failure}
    (hfailure : (attempts retries).outcome = .error failure) (hretry : failure.isRetryable = true) :
    (ofAttempts url attempts (left + 1) retries).span
      = (attempts retries).lasts + (pause (.ofNat (retries + 1))).nanos
        + (ofAttempts url attempts left (retries + 1)).span := by
  have hshift : ∀ (as : List Attempt) (p q : Nat),
      as.foldr (fun a t => a.lasts + t) (p + q) = p + as.foldr (fun a t => a.lasts + t) q := by
    intro as p q
    induction as with
    | nil => rfl
    | cons a as ih => rw [List.foldr_cons, List.foldr_cons, ih]; omega
  simp only [ofAttempts, hfailure, hretry, if_true, span, List.foldr_cons, hshift]
  omega

/-- The pauses after `retries` retries, if there are `left` left, in quarter seconds. -/
def pausesLeft (left retries : Nat) : Nat :=
  left * (2 * retries + left + 1)

theorem pausesLeft_succ (left retries : Nat) :
    pausesLeft (left + 1) retries = 2 * (retries + 1) + pausesLeft left (retries + 1) := by
  simp only [pausesLeft]
  ring

theorem span_ending_le {url : String} {retries timeout : Nat} {attempt : Attempt}
    (h : attempt.lasts ≤ timeout) (left pauses : Nat) :
    (ending url retries attempt).span ≤ (left + 1) * timeout + pauses := by
  rw [span_ending]
  calc attempt.lasts ≤ timeout := h
    _ ≤ (left + 1) * timeout := Nat.le_mul_of_pos_left _ (Nat.succ_pos left)
    _ ≤ _ := Nat.le_add_right _ _

/-- However the attempts end, a course takes no longer than all attempts and all pauses. -/
theorem span_ofAttempts_le (url : String) {attempts : Nat → Attempt} {timeout : Nat}
    (hlasts : ∀ n, (attempts n).lasts ≤ timeout) {left retries : Nat} (hbound : retries + left < 2 ^ 32) :
    (ofAttempts url attempts left retries).span
      ≤ (left + 1) * timeout + 250000000 * pausesLeft left retries := by
  induction left generalizing retries with
  | zero => exact span_ending_le (hlasts retries) 0 _
  | succ left ih =>
      cases houtcome : (attempts retries).outcome with
      | ok body =>
          rw [ofAttempts, houtcome]
          exact span_ending_le (hlasts retries) (left + 1) _
      | error failure =>
          by_cases hretry : failure.isRetryable = true
          · have hnext : retries + 1 + left < 2 ^ 32 := by omega
            have hrest := ih hnext
            have hfirst := hlasts retries
            rw [span_retry houtcome hretry, nanos_pause (by omega), pausesLeft_succ,
              Nat.succ_mul (left + 1)]
            omega
          · rw [ofAttempts, houtcome]
            simp only [hretry]
            exact span_ending_le (hlasts retries) (left + 1) _

/-- An attempt that lasts as long as it may and fails in a way that may pass. -/
def failing (timeout : Nat) : Nat → Attempt :=
  fun _ => ⟨.error (.unavailable ""), timeout, []⟩

/-- A course of such attempts takes all attempts and all pauses. -/
theorem span_ofAttempts_failing (url : String) (timeout : Nat) {left retries : Nat}
    (hbound : retries + left < 2 ^ 32) :
    (ofAttempts url (failing timeout) left retries).span
      = (left + 1) * timeout + 250000000 * pausesLeft left retries := by
  induction left generalizing retries with
  | zero => simp [ofAttempts, span_ending, pausesLeft, failing]
  | succ left ih =>
      rw [span_retry rfl rfl, ih (by omega), nanos_pause (by omega), pausesLeft_succ,
        Nat.succ_mul (left + 1)]
      show timeout + _ + _ = _
      omega

theorem pausesLeft_zero (left : Nat) : pausesLeft left 0 = left * (left + 1) := by
  rw [pausesLeft, Nat.mul_zero, Nat.zero_add]

end Course

/-! ### The budget -/

/-- Stopping at the longest time on the way makes no difference to a sum that stops there. -/
theorem min_scale_add {longest per count : Nat} (hcount : 0 < count) (rest : Nat) :
    min (min (min per longest * count) longest + min rest longest) longest
      = min (per * count + rest) longest := by
  rcases Nat.le_total per longest with hper | hper
  · rw [Nat.min_eq_left hper]
    omega
  · have hlong : longest ≤ per * count := Nat.le_trans hper (Nat.le_mul_of_pos_right _ hcount)
    have hcapped : longest ≤ longest * count := Nat.le_mul_of_pos_right _ hcount
    rw [Nat.min_eq_right hper]
    omega

/-- The budget in closed form: the attempts that are counted, each with its slack, and the pauses as far
as 64 bits of milliseconds go. -/
theorem nanos_budget (client : Client) :
    (budget client).nanos
      = min ((client.timeoutSecs.toNat + 1) * Span.nanosPerSecond * countedAttempts client.maxRetries
          + countedMillis client.maxRetries * 1000000)
        Span.longest.nanos := by
  have hslack : rateLimitSlack.nanos = Span.nanosPerSecond := by decide
  have hattempts : (UInt32.satSucc client.maxRetries).toNat = countedAttempts client.maxRetries :=
    toNat_satSucc client.maxRetries
  have hpos : 0 < countedAttempts client.maxRetries := by
    rw [countedAttempts]
    omega
  rw [budget, Span.nanos_add, Span.nanos_scale, Span.nanos_add, Span.nanos_ofSeconds, hslack,
    ← Nat.succ_mul, hattempts, Span.ofMillis, Span.nanos_ofNanos, toNat_pauseMillis]
  exact min_scale_add hpos _

/-- The most retries whose pauses are covered by what is counted for them together with the slack of the
attempts. -/
def coveredRetries : Nat := 271637584

/-- Up to so many retries the pauses, in milliseconds, exceed what 64 bits hold by less than the slack. -/
theorem pauses_le_of_covered {retries : Nat} (h : retries ≤ coveredRetries) :
    250 * (retries * (retries + 1)) ≤ 2 ^ 64 - 1 + 1000 * (retries + 1) := by
  have hmul : retries * (retries + 1) ≤ coveredRetries * (retries + 1) := Nat.mul_le_mul_right _ h
  simp only [coveredRetries] at h hmul
  omega

theorem lt_pauses_of_not_covered {retries : Nat} (h : coveredRetries + 1 ≤ retries) :
    2 ^ 64 - 1 + 1000 * (retries + 1) < 250 * (retries * (retries + 1)) := by
  have hmul : (coveredRetries + 1) * (retries + 1) ≤ retries * (retries + 1) := Nat.mul_le_mul_right _ h
  simp only [coveredRetries] at h hmul
  omega

/-- What is counted for the attempts, apart from their slack. -/
theorem counted_attempts_eq (client : Client) (attempts : Nat) :
    (client.timeoutSecs.toNat + 1) * Span.nanosPerSecond * attempts
      = attempts * client.timeoutNanos + 1000000000 * attempts := by
  rw [Client.timeoutNanos, Span.nanosPerSecond]
  ring

theorem worst_le_budget_of_covered {client : Client} (h : client.maxRetries.toNat ≤ coveredRetries) :
    worstNanos client.timeoutNanos client.maxRetries.toNat ≤ (budget client).nanos
      ∨ budget client = Span.longest := by
  have hpauses := pauses_le_of_covered h
  have hall : countedAttempts client.maxRetries = client.maxRetries.toNat + 1 := by
    simp only [coveredRetries, countedAttempts] at h ⊢
    omega
  rw [Span.eq_longest_iff, nanos_budget, counted_attempts_eq, hall, worstNanos, countedMillis]
  omega

theorem covered_of_worst_le_budget {client : Client}
    (h : worstNanos client.timeoutNanos client.maxRetries.toNat ≤ (budget client).nanos) :
    client.maxRetries.toNat ≤ coveredRetries := by
  by_contra hmany
  have hpauses := lt_pauses_of_not_covered (Nat.succ_le_of_lt (Nat.lt_of_not_le hmany))
  have hcounted : countedAttempts client.maxRetries ≤ client.maxRetries.toNat + 1 := Nat.min_le_left _ _
  have hattempts := Nat.mul_le_mul_right client.timeoutNanos hcounted
  have hmillis : countedMillis client.maxRetries ≤ 2 ^ 64 - 1 := Nat.min_le_right _ _
  rw [nanos_budget, counted_attempts_eq, worstNanos] at h
  have hle := Nat.le_trans h (Nat.min_le_left _ _)
  omega

/-! ### Fetches within their budget -/

/-- Following redirects takes no longer than the timeout, which is one for all of them. -/
theorem lasts_follow_le (ask : String → Option (Timed Reply)) (limit : Nat) (url : String)
    (redirects : Nat) {passed : Nat} (hpassed : passed ≤ limit) (asked : Url) :
    (follow ask limit url redirects passed asked).lasts ≤ limit := by
  fun_induction follow ask limit url redirects passed asked with
  | case1 => exact hpassed
  | case2 => exact Nat.le_refl limit
  | case3 => exact Nat.le_refl limit
  | case4 _ _ _ _ _ _ _ hnow => exact Nat.le_of_not_lt hnow
  | case5 _ _ _ _ _ _ _ hnow => exact Nat.le_of_not_lt hnow
  | case6 _ _ _ _ _ _ hnow => exact Nat.le_of_not_lt hnow
  | case7 _ _ _ _ _ _ hnow => exact Nat.le_of_not_lt hnow
  | case8 _ _ _ _ _ _ hnow _ _ _ _ _ _ _ ih => exact ih (Nat.le_of_not_lt hnow)

theorem lasts_attempt_le (network : Network) (client : Client) (url : String) (n : Nat) :
    (network.attempt client url n).lasts ≤ client.timeoutNanos := by
  rw [Network.attempt]
  split
  · exact Nat.zero_le _
  · rw [Span.nanos_ofSeconds]
    exact lasts_follow_le _ _ _ _ (Nat.zero_le _) _

theorem Source.within_of_le {source : Source} {limit : Span} {url : String}
    (h : (source url).span ≤ limit.nanos) : source.within limit url = source url :=
  if_neg (Nat.not_lt.2 h)

theorem Client.maxRetries_lt (client : Client) : 0 + client.maxRetries.toNat < 2 ^ 32 := by
  rw [Nat.zero_add]
  exact client.maxRetries.toNat_lt

theorem span_fetch_le (client : Client) {attempts : Nat → Attempt}
    (hlasts : ∀ n, (attempts n).lasts ≤ client.timeoutNanos) (url : String) :
    (Course.ofAttempts url attempts client.maxRetries.toNat 0).span
      ≤ worstNanos client.timeoutNanos client.maxRetries.toNat := by
  have h := Course.span_ofAttempts_le url hlasts client.maxRetries_lt
  rwa [Course.pausesLeft_zero] at h

theorem span_fetch_failing (client : Client) (url : String) :
    (Course.ofAttempts url (Course.failing client.timeoutNanos) client.maxRetries.toNat 0).span
      = worstNanos client.timeoutNanos client.maxRetries.toNat := by
  have h := Course.span_ofAttempts_failing url client.timeoutNanos client.maxRetries_lt
  rwa [Course.pausesLeft_zero] at h

theorem span_fetch_le_budget {client : Client}
    (hclient : client.maxRetries.toNat ≤ coveredRetries ∨ budget client = Span.longest) (url : String)
    {attempts : Nat → Attempt} (hlasts : ∀ n, (attempts n).lasts ≤ client.timeoutNanos) :
    (Course.ofAttempts url attempts client.maxRetries.toNat 0).span ≤ (budget client).nanos
      ∨ budget client = Span.longest := by
  rcases hclient with hfew | hlongest
  · rcases worst_le_budget_of_covered hfew with hworst | hlongest
    · exact Or.inl (Nat.le_trans (span_fetch_le client hlasts url) hworst)
    · exact Or.inr hlongest
  · exact Or.inr hlongest

/-- The budget covers every course of attempts, none of which is longer than the timeout, exactly if it
allows few enough retries or is the longest time of all. Then a survey cuts off no fetch that is still
within its retries. -/
theorem budget_covers_iff (client : Client) :
    ((∀ (url : String) (attempts : Nat → Attempt), (∀ n, (attempts n).lasts ≤ client.timeoutNanos) →
        (Course.ofAttempts url attempts client.maxRetries.toNat 0).span ≤ (budget client).nanos
          ∨ budget client = Span.longest) ↔
      client.maxRetries.toNat ≤ coveredRetries ∨ budget client = Span.longest) ∧
    (client.maxRetries.toNat ≤ coveredRetries ∨ budget client = Span.longest →
      ∀ settings : Settings, settings.client = client → ∀ (network : Network) (url : String),
        (budget client = Span.longest → (client.source network url).span ≤ Span.longest.nanos) →
        (client.source network).within settings.surveyOptions.fetchTimeout url
          = client.source network url) := by
  refine ⟨⟨fun hall => ?_, fun hclient url attempts hlasts => span_fetch_le_budget hclient url hlasts⟩, ?_⟩
  · rcases hall "" (Course.failing client.timeoutNanos) (fun _ => Nat.le_refl _) with hle | hlongest
    · rw [span_fetch_failing] at hle
      exact Or.inl (covered_of_worst_le_budget hle)
    · exact Or.inr hlongest
  · intro hclient settings hsettings network url hspan
    apply Source.within_of_le
    show _ ≤ (budget settings.client).nanos
    rw [hsettings]
    rcases span_fetch_le_budget hclient url (lasts_attempt_le network client url) with hle | hlongest
    · exact hle
    · rw [hlongest]
      exact hspan hlongest

/-- With three hundred million retries, each after an attempt of half a minute, the pauses alone take
longer than the budget. -/
theorem budget_short_of_pauses :
    ∃ client : Client, client.timeoutSecs = 30 ∧ client.maxRetries = 300000000 ∧
      budget client ≠ Span.longest ∧
      ∃ (url : String) (attempts : Nat → Attempt), (∀ n, (attempts n).lasts ≤ client.timeoutNanos) ∧
        (budget client).nanos < (Course.ofAttempts url attempts client.maxRetries.toNat 0).span := by
  let client : Client := { timeoutSecs := 30, maxRetries := 300000000 }
  have hbudget : (budget client).nanos = 18446753373709582615000000 := by
    rw [nanos_budget]
    decide
  refine ⟨client, rfl, rfl, ?_, "", Course.failing client.timeoutNanos, fun _ => Nat.le_refl _, ?_⟩
  · rw [ne_eq, Span.eq_longest_iff, hbudget]
    decide
  · rw [span_fetch_failing, hbudget]
    decide

end LinkSurvey.Fetch
