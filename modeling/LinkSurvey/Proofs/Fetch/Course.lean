import LinkSurvey.Proofs.Fetch.Budget
import Mathlib.Data.Nat.Find
import Mathlib.Order.Bounds.Basic

/-!
The course of a fetch with retries, told without its loop. It ends with the first attempt whose outcome is
settled, or with the last one that it may make; what came out of that attempt comes out of the fetch, and
each attempt but the first waits for a pause that is half a second longer than the one before. The loop is
followed from any number of retries on, so that one induction covers all of them.
-/

namespace LinkSurvey.Fetch

/-- Outcomes after which another attempt is of no use: a body, a reply that blames the client, and a
request that cannot be made. -/
inductive Settled : Except Failure (List Char) → Prop where
  | body (text : List Char) : Settled (.ok text)
  | refused {code : Nat} (url : String) (hcode : 400 ≤ code ∧ code < 500) :
      Settled (.error (.status code url))
  | malformed (url : Option String) (detail : String) :
      Settled (.error (.request (.malformed url detail)))

theorem settled_error_iff (failure : Failure) :
    Settled (.error failure) ↔ failure.isRetryable = false := by
  constructor
  · intro h
    cases h with
    | refused url hcode => simp [Failure.isRetryable, hcode]
    | malformed url detail => rfl
  · intro h
    cases failure with
    | status code url =>
        simp only [Failure.isRetryable, Bool.not_eq_false', Bool.and_eq_true, decide_eq_true_eq] at h
        exact .refused url h
    | request fault =>
        cases fault with
        | malformed url detail => exact .malformed url detail
        | _ => cases h
    | timedOut url => cases h
    | unavailable detail => cases h

/-! ### From one retry to the next -/

namespace Course

/-- A course of the attempts `first`, `first + 1` and so on, so many of which were retries: the pause
before each of these is half a second times its number, and the last attempt decides. -/
structure Covers (course : Course) (attempts : Nat → Attempt) (first retries : Nat) : Prop where
  attempts_eq : course.attempts = (List.range' first (retries + 1)).map attempts
  pauses_eq : course.pauses.map Span.nanos = (List.range' (first + 1) retries).map (500000000 * ·)
  body_eq : course.body = (attempts (first + retries)).outcome

variable {attempts : Nat → Attempt} {first left retries : Nat}

theorem covers_ending (url : String) : (ending url first (attempts first)).Covers attempts first 0 :=
  ⟨rfl, rfl, rfl⟩

/-- An attempt that settles the matter, or after which no retry is left, is the last one. -/
theorem ofAttempts_of_last (url : String) (h : Settled (attempts first).outcome ∨ left = 0) :
    ofAttempts url attempts left first = ending url first (attempts first) := by
  cases left with
  | zero => rfl
  | succ left =>
      rcases h with hsettled | hleft
      · cases houtcome : (attempts first).outcome with
        | ok text => simp only [ofAttempts, houtcome]
        | error failure =>
            rw [houtcome, settled_error_iff] at hsettled
            simp only [ofAttempts, houtcome, hsettled, Bool.false_eq_true, if_false]
      · exact absurd hleft (Nat.succ_ne_zero left)

/-- After any other attempt there is a pause, and then the course goes on with the next one. -/
theorem covers_retry {url : String} (hopen : ¬Settled (attempts first).outcome) (hbound : first + 1 < 2 ^ 32)
    (hrest : (ofAttempts url attempts left (first + 1)).Covers attempts (first + 1) retries) :
    (ofAttempts url attempts (left + 1) first).Covers attempts first (retries + 1) := by
  cases houtcome : (attempts first).outcome with
  | ok text => exact absurd (houtcome ▸ Settled.body text) hopen
  | error failure =>
      have hretry : failure.isRetryable = true := by
        rw [houtcome, settled_error_iff, Bool.not_eq_false] at hopen
        exact hopen
      obtain ⟨hattempts, hpauses, hbody⟩ := hrest
      simp only [ofAttempts, houtcome, hretry, if_true]
      refine ⟨?_, ?_, ?_⟩
      · exact congrArg (attempts first :: ·) hattempts
      · rw [List.map_cons, hpauses, nanos_pause hbound, List.range'_succ, List.map_cons]
      · rw [hbody, Nat.add_assoc, Nat.add_comm 1]

/-- The course from some attempt on covers the attempts up to the first that is the last one. -/
theorem covers_ofAttempts (url : String) (hbound : first + left < 2 ^ 32) (hretries : retries ≤ left)
    (hopen : ∀ i < retries, ¬Settled (attempts (first + i)).outcome)
    (hlast : Settled (attempts (first + retries)).outcome ∨ retries = left) :
    (ofAttempts url attempts left first).Covers attempts first retries := by
  induction retries generalizing first left with
  | zero =>
      have hfirst : ofAttempts url attempts left first = ending url first (attempts first) :=
        ofAttempts_of_last url (hlast.imp id Eq.symm)
      rw [hfirst]
      exact covers_ending url
  | succ retries ih =>
      obtain ⟨left, rfl⟩ := Nat.exists_eq_add_of_lt hretries
      have hshift : ∀ i, first + 1 + i = first + (i + 1) := fun i => by omega
      refine covers_retry (hopen 0 (Nat.succ_pos retries)) (by omega) (ih ?_ ?_ ?_ ?_)
      · omega
      · omega
      · intro i hi
        rw [hshift]
        exact hopen (i + 1) (Nat.succ_lt_succ hi)
      · rw [hshift]
        exact hlast.imp id fun h => by omega

theorem Covers.length_requests_le {course : Course} {bound : Nat} (hcourse : course.Covers attempts first retries)
    (hattempts : ∀ i, (attempts i).requests.length ≤ bound) :
    course.requests.length ≤ bound * (retries + 1) := by
  have hsum : ∀ l : List Nat, ((l.map attempts).flatMap Attempt.requests).length ≤ bound * l.length := by
    intro l
    induction l with
    | nil => exact Nat.zero_le _
    | cons i l ih =>
        have hi := hattempts i
        rw [List.map_cons, List.flatMap_cons, List.length_append, List.length_cons, Nat.mul_succ]
        omega
  have hall := hsum (List.range' first (retries + 1))
  rwa [List.length_range', ← hcourse.attempts_eq] at hall

end Course

/-! ### Whole fetches -/

/-- One request, and one more for each redirect that is followed. -/
theorem length_requests_follow (ask : String → Option (Timed Reply)) (limit : Nat) (url : String)
    (redirects passed : Nat) (asked : Url) :
    (follow ask limit url redirects passed asked).requests.length ≤ redirects + 1 := by
  fun_induction follow ask limit url redirects passed asked with
  | case1 => exact Nat.zero_le _
  | case8 _ _ _ _ _ _ _ _ _ _ _ _ _ _ ih =>
      rw [List.singleton_append, List.length_cons]
      exact Nat.succ_le_succ ih
  | _ => exact Nat.succ_le_succ (Nat.zero_le _)

theorem length_requests_attempt (network : Network) (client : Client) (url : String) (n : Nat) :
    (network.attempt client url n).requests.length ≤ redirectLimit + 1 := by
  rw [Network.attempt]
  split
  · exact Nat.zero_le _
  · exact length_requests_follow _ _ _ _ _ _

/-- The attempts with which a fetch of so many retries may end. -/
def lastAttempts (attempts : Nat → Attempt) (maxRetries : Nat) : Set Nat :=
  {i | Settled (attempts i).outcome ∨ i = maxRetries}

open Classical in
theorem exists_isLeast_lastAttempts (attempts : Nat → Attempt) (maxRetries : Nat) :
    ∃ k, IsLeast (lastAttempts attempts maxRetries) k := by
  have hsome : ∃ i, i ∈ lastAttempts attempts maxRetries := ⟨maxRetries, Or.inr rfl⟩
  exact ⟨Nat.find hsome, Nat.find_spec hsome, fun i hi => Nat.find_min' hsome hi⟩

theorem covers_of_isLeast (url : String) {attempts : Nat → Attempt} {client : Client} {k : Nat}
    (hk : IsLeast (lastAttempts attempts client.maxRetries.toNat) k) :
    (Course.ofAttempts url attempts client.maxRetries.toNat 0).Covers attempts 0 k := by
  refine Course.covers_ofAttempts url client.maxRetries_lt (hk.2 (Or.inr rfl)) (fun i hi hsettled => ?_) ?_
  · rw [Nat.zero_add] at hsettled
    exact absurd (hk.2 (Or.inl hsettled)) (Nat.not_le.2 hi)
  · rw [Nat.zero_add]
    exact hk.1

/-- A fetch ends with the first attempt `k` that is settled or has no retry left. It makes the attempts up
to that one, pauses for `j` half seconds before its attempt `j`, and gives what attempt `k` gave. If no
attempt follows more than five redirects there are at most six requests for each attempt that is allowed,
and over a network no attempt does. -/
theorem course_of_fetch (client : Client) (url : String) (attempts : Nat → Attempt) :
    (∃ k, IsLeast (lastAttempts attempts client.maxRetries.toNat) k
      ∧ (Course.ofAttempts url attempts client.maxRetries.toNat 0).attempts
          = (List.range (k + 1)).map attempts
      ∧ (Course.ofAttempts url attempts client.maxRetries.toNat 0).pauses.map Span.nanos
          = (List.range' 1 k).map (500000000 * ·)
      ∧ (Course.ofAttempts url attempts client.maxRetries.toNat 0).body = (attempts k).outcome)
    ∧ ((∀ i, (attempts i).requests.length ≤ redirectLimit + 1) →
        (Course.ofAttempts url attempts client.maxRetries.toNat 0).requests.length
          ≤ 6 * (client.maxRetries.toNat + 1))
    ∧ ∀ network : Network, (client.fetch network url).requests.length ≤ 6 * (client.maxRetries.toNat + 1) := by
  have hrequests : ∀ attempts : Nat → Attempt, (∀ i, (attempts i).requests.length ≤ redirectLimit + 1) →
      (Course.ofAttempts url attempts client.maxRetries.toNat 0).requests.length
        ≤ 6 * (client.maxRetries.toNat + 1) := by
    intro attempts hattempts
    obtain ⟨k, hk⟩ := exists_isLeast_lastAttempts attempts client.maxRetries.toNat
    have hle : k ≤ client.maxRetries.toNat := hk.2 (Or.inr rfl)
    calc _ ≤ (redirectLimit + 1) * (k + 1) := (covers_of_isLeast url hk).length_requests_le hattempts
      _ ≤ 6 * (client.maxRetries.toNat + 1) := Nat.mul_le_mul_left 6 (Nat.succ_le_succ hle)
  refine ⟨?_, hrequests attempts, fun network => hrequests _ (length_requests_attempt network client url)⟩
  obtain ⟨k, hk⟩ := exists_isLeast_lastAttempts attempts client.maxRetries.toNat
  obtain ⟨hattempts, hpauses, hbody⟩ := covers_of_isLeast url hk
  rw [Nat.zero_add] at hbody
  exact ⟨k, hk, by rw [hattempts, List.range_eq_range'], hpauses, hbody⟩

/-- An attempt at a page that points to itself. -/
def circling : Nat → Attempt :=
  fun _ => ⟨.error (.request (.tooManyRedirects "http://a/")), 0, List.replicate 6 "http://a/"⟩

/-- With one retry such a page is asked for as often as can be. -/
theorem course_of_fetch_circling :
    (∀ i, (circling i).requests.length ≤ redirectLimit + 1)
      ∧ (Course.ofAttempts "http://a/" circling 1 0).requests.length = 12
      ∧ (Course.ofAttempts "http://a/" circling 1 0).requests.length ≤ 6 * (1 + 1) := by
  have hcircling : ∀ i, (circling i).requests.length ≤ redirectLimit + 1 := fun _ => Nat.le_refl 6
  exact ⟨hcircling, by decide, (course_of_fetch { maxRetries := 1 } "http://a/" circling).2.1 hcircling⟩

end LinkSurvey.Fetch
