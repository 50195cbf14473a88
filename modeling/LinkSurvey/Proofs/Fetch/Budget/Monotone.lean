import LinkSurvey.Proofs.Fetch.Budget
import Mathlib.Algebra.BigOperators.Intervals

/-!
The steps of a budget. Two of them are plain operations on 64 bits: the number of retries plus one, and the product
of both, which is twice the sum of the numbers up to it. Neither leaves its 64 bits, so a budget that would give up
there never does, and all other steps stop at the top of their range. Steps that stop grow with what they are given,
so a longer timeout or more retries never make a budget shorter.
-/

namespace LinkSurvey.Fetch

/-! ### Steps that must fit -/

/-- The sum of two words if it fits into one. -/
def UInt64.add? (a b : UInt64) : Option UInt64 :=
  if a.toNat + b.toNat < 2 ^ 64 then some (a + b) else none

/-- The product of two words if it fits into one. -/
def UInt64.mul? (a b : UInt64) : Option UInt64 :=
  if a.toNat * b.toNat < 2 ^ 64 then some (a * b) else none

/-- The numbers up to a number of retries, summed up, if no step on the way is too large. -/
def pauseSteps? (retries : UInt32) : Option UInt64 := do
  let next ← UInt64.add? retries.toUInt64 1
  let twice ← UInt64.mul? retries.toUInt64 next
  return twice / 2

/-- The budget, if no step of it that does not stop by itself is too large. -/
def checkedBudget? (client : Client) : Option Span := do
  let attempts := UInt32.satSucc client.maxRetries
  let perAttempt := (Span.ofSeconds client.timeoutSecs).add rateLimitSlack
  let steps ← pauseSteps? client.maxRetries
  return (perAttempt.scale attempts).add (.ofMillis (UInt64.satMul steps 500))

theorem pauseSteps?_eq (retries : UInt32) :
    pauseSteps? retries = some (retries.toUInt64 * (retries.toUInt64 + 1) / 2) := by
  have hretries := retries.toNat_lt
  have hone : (1 : UInt64).toNat = 1 := rfl
  have hnext : UInt64.add? retries.toUInt64 1 = some (retries.toUInt64 + 1) := by
    apply if_pos
    rw [UInt32.toNat_toUInt64, hone]
    omega
  have htwice : UInt64.mul? retries.toUInt64 (retries.toUInt64 + 1)
      = some (retries.toUInt64 * (retries.toUInt64 + 1)) := by
    apply if_pos
    rw [toNat_next, UInt32.toNat_toUInt64]
    exact mul_next_lt retries
  simp [pauseSteps?, hnext, htwice]

theorem checkedBudget?_eq (client : Client) : checkedBudget? client = some (budget client) := by
  simp [checkedBudget?, pauseSteps?_eq, budget]

theorem two_mul_sum (n : Nat) : 2 * ∑ i ∈ Finset.range (n + 1), i = n * (n + 1) := by
  rw [Nat.mul_comm 2, Finset.sum_range_id_mul_two, Nat.add_sub_cancel, Nat.mul_comm]

theorem toNat_pauseSteps_eq_sum (retries : UInt32) :
    (retries.toUInt64 * (retries.toUInt64 + 1) / 2).toNat = ∑ i ∈ Finset.range (retries.toNat + 1), i := by
  have hsum := two_mul_sum retries.toNat
  rw [toNat_pauseSteps]
  omega

theorem countedMillis_eq_sum (retries : UInt32) :
    countedMillis retries = min (500 * ∑ i ∈ Finset.range (retries.toNat + 1), i) (2 ^ 64 - 1) := by
  have hsum := two_mul_sum retries.toNat
  rw [countedMillis]
  omega

/-! ### Growth -/

section Growth

variable {fewer more : UInt32} (h : fewer ≤ more)
include h

theorem countedAttempts_mono : countedAttempts fewer ≤ countedAttempts more := by
  have hle : fewer.toNat ≤ more.toNat := UInt32.le_iff_toNat_le.1 h
  simp only [countedAttempts]
  omega

theorem countedMillis_mono : countedMillis fewer ≤ countedMillis more := by
  have hle : fewer.toNat ≤ more.toNat := UInt32.le_iff_toNat_le.1 h
  have hmul : fewer.toNat * (fewer.toNat + 1) ≤ more.toNat * (more.toNat + 1) := by gcongr
  simp only [countedMillis]
  omega

end Growth

theorem nanos_budget_mono {client larger : Client} (htimeout : client.timeoutSecs ≤ larger.timeoutSecs)
    (hretries : client.maxRetries ≤ larger.maxRetries) : (budget client).nanos ≤ (budget larger).nanos := by
  have hseconds : client.timeoutSecs.toNat ≤ larger.timeoutSecs.toNat := UInt64.le_iff_toNat_le.1 htimeout
  have hattempts := countedAttempts_mono hretries
  have hmillis := countedMillis_mono hretries
  rw [nanos_budget, nanos_budget]
  gcongr

/-- No step of a budget is too large for where it is kept. The unchecked ones are exact, and half the product is the
sum of the numbers of the retries; the others are exact up to the top of their range, so the budget is the timeout and
a second for every attempt and half a second for every unit of that sum, each as far as it is counted. It grows with
the timeout and with the number of retries. -/
theorem budget_exact_and_monotone (client : Client) :
    client.maxRetries.toNat * (client.maxRetries.toNat + 1) < 2 ^ 64
      ∧ (client.maxRetries.toUInt64 * (client.maxRetries.toUInt64 + 1)).toNat
        = client.maxRetries.toNat * (client.maxRetries.toNat + 1)
      ∧ (client.maxRetries.toUInt64 * (client.maxRetries.toUInt64 + 1) / 2).toNat
        = ∑ i ∈ Finset.range (client.maxRetries.toNat + 1), i
      ∧ checkedBudget? client = some (budget client)
      ∧ (budget client).nanos
        = min ((client.timeoutSecs.toNat + 1) * 1000000000 * min (client.maxRetries.toNat + 1) (2 ^ 32 - 1)
            + min (500 * ∑ i ∈ Finset.range (client.maxRetries.toNat + 1), i) (2 ^ 64 - 1) * 1000000)
          Span.longest.nanos
      ∧ ∀ larger : Client, client.timeoutSecs ≤ larger.timeoutSecs → client.maxRetries ≤ larger.maxRetries →
          (budget client).nanos ≤ (budget larger).nanos := by
  refine ⟨mul_next_lt _, ?_, toNat_pauseSteps_eq_sum _, checkedBudget?_eq client, ?_, ?_⟩
  · rw [UInt64.toNat_mul, toNat_next, UInt32.toNat_toUInt64]
    exact Nat.mod_eq_of_lt (mul_next_lt _)
  · rw [nanos_budget, countedMillis_eq_sum]
    rfl
  · intro larger htimeout hretries
    exact nanos_budget_mono htimeout hretries

/-- Many retries after half a minute each, and the most that can be asked for. -/
theorem budget_exact_and_monotone_longest :
    ∃ client larger : Client, client.timeoutSecs ≤ larger.timeoutSecs ∧ client.maxRetries ≤ larger.maxRetries
      ∧ (budget client).nanos ≤ (budget larger).nanos
      ∧ client.maxRetries = 271637584 ∧ budget client ≠ Span.longest ∧ budget larger = Span.longest := by
  let client : Client := { timeoutSecs := 30, maxRetries := 271637584 }
  let larger : Client := { timeoutSecs := 18446744073709551615, maxRetries := 4294967295 }
  have htimeout : client.timeoutSecs ≤ larger.timeoutSecs := by decide
  have hretries : client.maxRetries ≤ larger.maxRetries := by decide
  obtain ⟨-, -, -, -, -, hmono⟩ := budget_exact_and_monotone client
  refine ⟨client, larger, htimeout, hretries, hmono larger htimeout hretries, rfl, ?_, ?_⟩
  · rw [ne_eq, Span.eq_longest_iff, nanos_budget]
    decide
  · rw [Span.eq_longest_iff, nanos_budget]
    decide

end LinkSurvey.Fetch
