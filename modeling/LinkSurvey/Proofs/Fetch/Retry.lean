import LinkSurvey.Proofs.Fetch.Course
import Mathlib.Data.List.Range

/-!
When a fetch tries again. It does so after every outcome that is not settled, and these are more than the ones that
may pass: a network that fails and a server that fails. A reply that blames neither the client nor the server is asked
for again, and so is a page that points to itself. So a fetch tries again for a good reason only, exactly if it meets
none of these while it has retries left.
-/

namespace LinkSurvey.Fetch

/-- Outcomes that may be other ones the next time: the network failed, or the server did. -/
inductive Transient : Except Failure (List Char) → Prop where
  | unreachable (url : String) : Transient (.error (.request (.unreachable url)))
  | dropped (url : String) : Transient (.error (.request (.dropped url)))
  | stalled (url : String) : Transient (.error (.request (.stalled url)))
  | cutShort : Transient (.error (.request .cutShort))
  | serverError {code : Nat} (url : String) (hcode : 500 ≤ code ∧ code < 600) : Transient (.error (.status code url))

/-- Outcomes that are taken for such ones: too many redirects, and a status of no error. -/
inductive Overlooked : Except Failure (List Char) → Prop where
  | tooManyRedirects (url : String) : Overlooked (.error (.request (.tooManyRedirects url)))
  | status {code : Nat} (url : String) (hcode : code < 400 ∨ 600 ≤ code) : Overlooked (.error (.status code url))

variable {outcome : Except Failure (List Char)}

/-- A status is final only if it blames the client. -/
theorem not_settled_status {code : Nat} (url : String) (hcode : code < 400 ∨ 500 ≤ code) :
    ¬Settled (.error (.status code url)) := by
  rw [settled_error_iff, Bool.not_eq_false, Failure.isRetryable]
  simp only [Bool.not_eq_true', Bool.and_eq_false_iff, decide_eq_false_iff_not]
  omega

theorem Transient.not_settled (h : Transient outcome) : ¬Settled outcome := by
  cases h with
  | serverError url hcode => exact not_settled_status url (.inr hcode.1)
  | _ => exact nofun

theorem Overlooked.not_settled (h : Overlooked outcome) : ¬Settled outcome := by
  cases h with
  | tooManyRedirects url => exact nofun
  | status url hcode => exact not_settled_status url (hcode.imp_right fun h => by omega)

theorem Overlooked.not_transient (h : Overlooked outcome) : ¬Transient outcome := by
  intro htransient
  cases h with
  | tooManyRedirects url => cases htransient
  | status url hcode =>
      cases htransient with
      | serverError url hserver => omega

/-! ### What an attempt can end in -/

/-- The outcomes of asking somebody: a body, a request that failed, or a reply without success. -/
inductive Asked : Except Failure (List Char) → Prop where
  | body (text : List Char) : Asked (.ok text)
  | request (fault : RequestFault) : Asked (.error (.request fault))
  | status (code : Nat) (url : String) : Asked (.error (.status code url))

theorem asked_response (r : Response) (url : String) : Asked (r.outcome url) := by
  rw [Response.outcome]
  split
  · split
    · exact .body _
    · exact .request _
  · exact .status _ _

theorem exists_malformed_of_checkScheme {u : Url} {failure : Failure}
    (h : Request.checkScheme u = .error failure) : ∃ at? detail, failure = .request (.malformed at? detail) := by
  rw [Request.checkScheme] at h
  split at h
  · cases h
  · exact ⟨_, _, (Except.error.inj h).symm⟩

theorem exists_malformed_of_ofUrl {u : Url} {failure : Failure} (h : Request.ofUrl u = .error failure) :
    ∃ at? detail, failure = .request (.malformed at? detail) := by
  rw [Request.ofUrl] at h
  split at h
  · exact ⟨_, _, (Except.error.inj h).symm⟩
  · dsimp only at h
    cases hscheme : Request.checkScheme (Request.withoutCredentials u) with
    | error other =>
        rw [hscheme] at h
        cases h
        exact exists_malformed_of_checkScheme hscheme
    | ok =>
        simp only [hscheme, bind, Except.bind] at h
        split at h
        · cases h
        · exact ⟨_, _, (Except.error.inj h).symm⟩

theorem exists_malformed_of_ofText {url : String} {failure : Failure} (h : Request.ofText url = .error failure) :
    ∃ at? detail, failure = .request (.malformed at? detail) := by
  rw [Request.ofText] at h
  split at h
  · exact ⟨_, _, (Except.error.inj h).symm⟩
  · exact exists_malformed_of_ofUrl h

theorem asked_follow (ask : String → Option (Timed Reply)) (limit : Nat) (url : String) (redirects passed : Nat)
    (asked : Url) : Asked (follow ask limit url redirects passed asked).outcome := by
  fun_induction follow ask limit url redirects passed asked with
  | case5 => exact asked_response _ _
  | case7 _ _ _ _ _ _ _ _ _ _ _ next failure hscheme =>
      obtain ⟨at?, detail, rfl⟩ := exists_malformed_of_checkScheme hscheme
      exact .request _
  | case8 _ _ _ _ _ _ _ _ _ _ _ _ _ _ ih => exact ih
  | _ => exact .request _

theorem asked_attempt (network : Network) (client : Client) (url : String) (n : Nat) :
    Asked (network.attempt client url n).outcome := by
  rw [Network.attempt]
  split
  next failure hmalformed =>
    obtain ⟨at?, detail, rfl⟩ := exists_malformed_of_ofText hmalformed
    exact .request _
  · exact asked_follow _ _ _ _ _ _

/-- What is not settled may pass, or is taken for something that may. -/
theorem Asked.transient_or_overlooked (h : Asked outcome) (hopen : ¬Settled outcome) :
    Transient outcome ∨ Overlooked outcome := by
  cases h with
  | body text => exact absurd (.body text) hopen
  | request fault =>
      cases fault with
      | malformed url detail => exact absurd (.malformed url detail) hopen
      | unreachable url => exact .inl (.unreachable url)
      | dropped url => exact .inl (.dropped url)
      | stalled url => exact .inl (.stalled url)
      | cutShort => exact .inl .cutShort
      | tooManyRedirects url => exact .inr (.tooManyRedirects url)
  | status code url =>
      by_cases hserver : 500 ≤ code ∧ code < 600
      · exact .inl (.serverError url hserver)
      · by_cases hclient : 400 ≤ code ∧ code < 500
        · exact absurd (.refused url hclient) hopen
        · exact .inr (.status url (by omega))

/-! ### Whole fetches -/

/-- Each attempt after which another one is made ended in this way. -/
def Course.TriesAgainAfter (p : Except Failure (List Char) → Prop) (course : Course) : Prop :=
  course.attempts.IsChain fun a _ => p a.outcome

theorem triesAgainAfter_iff (client : Client) (network : Network) (url : String) {k : Nat}
    (hk : IsLeast (lastAttempts (network.attempt client url) client.maxRetries.toNat) k)
    (p : Except Failure (List Char) → Prop) :
    (client.fetch network url).TriesAgainAfter p ↔ ∀ i < k, p (network.attempt client url i).outcome := by
  have hcovers := covers_of_isLeast url hk
  rw [Course.TriesAgainAfter, Client.fetch, hcovers.attempts_eq, ← List.range_eq_range', List.isChain_map,
    List.isChain_range_succ]

/-- After each attempt with which a fetch does not end it tries again, and the attempt was not settled. -/
theorem not_settled_of_lt {attempts : Nat → Attempt} {maxRetries k i : Nat}
    (hk : IsLeast (lastAttempts attempts maxRetries) k) (hi : i < k) :
    i < maxRetries ∧ ¬Settled (attempts i).outcome := by
  have hlast : k ≤ maxRetries := hk.2 (Or.inr rfl)
  exact ⟨Nat.lt_of_lt_of_le hi hlast, fun hsettled => absurd (hk.2 (Or.inl hsettled)) (Nat.not_le.2 hi)⟩

/-- As long as nothing is settled, and there are retries left, a fetch does not end. -/
theorem lt_of_not_settled {attempts : Nat → Attempt} {maxRetries k i : Nat}
    (hk : IsLeast (lastAttempts attempts maxRetries) k) (hi : i < maxRetries)
    (hopen : ∀ j ≤ i, ¬Settled (attempts j).outcome) : i < k := by
  refine Nat.lt_of_not_le fun hki => ?_
  rcases hk.1 with hsettled | rfl
  · exact hopen k hki hsettled
  · exact absurd hi (Nat.not_lt.2 hki)

/-- A fetch tries again only after an outcome that may pass, or after one that is taken for such a one. It never tries
again after one of the latter exactly if, as long as there are retries left and all that it has met may pass, it does
not meet one. -/
theorem triesAgainAfter_transient_iff (client : Client) (network : Network) (url : String) :
    (client.fetch network url).TriesAgainAfter (fun o => Transient o ∨ Overlooked o)
      ∧ ((client.fetch network url).TriesAgainAfter Transient ↔
          ∀ i < client.maxRetries.toNat, (∀ j < i, Transient (network.attempt client url j).outcome) →
            ¬Overlooked (network.attempt client url i).outcome) := by
  obtain ⟨k, hk⟩ := exists_isLeast_lastAttempts (network.attempt client url) client.maxRetries.toNat
  have hrest : ∀ i < k, Transient (network.attempt client url i).outcome
      ∨ Overlooked (network.attempt client url i).outcome := fun i hi =>
    (asked_attempt network client url i).transient_or_overlooked (not_settled_of_lt hk hi).2
  rw [triesAgainAfter_iff client network url hk, triesAgainAfter_iff client network url hk]
  refine ⟨hrest, fun hall i hi hbefore hoverlooked => ?_, fun hnone i => ?_⟩
  · have hlt : i < k := by
      refine lt_of_not_settled hk hi fun j hj => ?_
      rcases Nat.lt_or_eq_of_le hj with hj | rfl
      · exact (hbefore j hj).not_settled
      · exact hoverlooked.not_settled
    exact hoverlooked.not_transient (hall i hlt)
  · induction i using Nat.strong_induction_on with
    | _ i ih =>
        intro hi
        have hbefore : ∀ j < i, Transient (network.attempt client url j).outcome := fun j hj =>
          ih j hj (Nat.lt_trans hj hi)
        exact (hrest i hi).resolve_right (hnone i (not_settled_of_lt hk hi).1 hbefore)

/-- A network on which there is the same reply to everything. -/
def Network.always (r : Response) : Network :=
  ⟨fun _ _ => some ⟨0, .response r⟩⟩

/-- A choice between several pages is asked for again, and so is a page that points to itself. -/
theorem triesAgainAfter_overlooked :
    ¬(Client.fetch { maxRetries := 1 } (.always { status := 300 }) "http://[::1]/").TriesAgainAfter Transient
      ∧ ¬(Client.fetch { maxRetries := 1 } (.always { status := 302, location := some "/" })
          "http://[::1]/").TriesAgainAfter Transient := by
  have hchain : ∀ course : Course, course.TriesAgainAfter Transient ↔
      (course.attempts.map Attempt.outcome).IsChain fun o _ => Transient o := by
    intro course
    rw [List.isChain_map, Course.TriesAgainAfter]
  have hchoice : (Client.fetch { maxRetries := 1 } (.always { status := 300 }) "http://[::1]/").attempts.map
      Attempt.outcome = List.replicate 2 (.error (.status 300 "http://[::1]/")) := by
    decide +kernel
  have hcircle : (Client.fetch { maxRetries := 1 } (.always { status := 302, location := some "/" })
      "http://[::1]/").attempts.map Attempt.outcome
        = List.replicate 2 (.error (.request (.tooManyRedirects "http://[::1]/"))) := by
    decide +kernel
  rw [hchain, hchain, hchoice, hcircle]
  refine ⟨fun h => ?_, fun h => ?_⟩
  · exact (Overlooked.status _ (.inl (by decide))).not_transient (List.isChain_cons_cons.1 h).1
  · exact (Overlooked.tooManyRedirects _).not_transient (List.isChain_cons_cons.1 h).1

end LinkSurvey.Fetch
