import LinkSurvey.Window
import Mathlib.Data.List.TakeWhile

/-!
Whatever order the jobs of a window finish in, every one of them is delivered, in the order of the list
and with its own result. One round finishes exactly one job, so as many rounds as there are jobs finish
them all; a job that has finished leaves the window only from its front, so none overtakes another.
-/

namespace LinkSurvey.Window

variable {α β : Type} (work : α → Timed β) (jobs : List α)

/-- A job under way has the result of its work, and is due a full span after its own start. -/
def Flight.IsOf (f : Flight α β) : Prop :=
  f.value = (work f.job).value ∧ f.due = f.started + (work f.job).span

theorem isOf_launch (now : Nat) (job : α) : (launch work now job).IsOf work :=
  ⟨rfl, rfl⟩

/-! ### One job finishes -/

theorem map_job_landAt (k : Nat) (fs : List (Flight α β)) :
    (landAt k fs).map (·.job) = fs.map (·.job) := by
  induction fs generalizing k with
  | nil => rfl
  | cons f fs ih =>
      simp only [landAt]
      split_ifs
      · simp only [List.map_cons, ih]
      · rfl
      · simp only [List.map_cons, ih]

theorem isOf_of_mem_landAt {k : Nat} {fs : List (Flight α β)} (h : ∀ f ∈ fs, f.IsOf work) :
    ∀ f ∈ landAt k fs, f.IsOf work := by
  induction fs generalizing k with
  | nil => exact h
  | cons g fs ih =>
      obtain ⟨hg, hfs⟩ := List.forall_mem_cons.1 h
      simp only [landAt]
      split_ifs
      · exact List.forall_mem_cons.2 ⟨hg, ih hfs⟩
      · exact List.forall_mem_cons.2 ⟨hg, hfs⟩
      · exact List.forall_mem_cons.2 ⟨hg, ih hfs⟩

/-- The jobs in the window that have not finished. -/
def underway (fs : List (Flight α β)) : Nat :=
  fs.countP fun f => !f.landed

theorem underway_eq_zero_iff {fs : List (Flight α β)} :
    underway fs = 0 ↔ fs.all (·.landed) = true := by
  simp [underway, List.countP_eq_zero]

theorem underway_landAt (k : Nat) {fs : List (Flight α β)} (h : 0 < underway fs) :
    underway (landAt k fs) + 1 = underway fs := by
  induction fs generalizing k with
  | nil => exact absurd h (Nat.lt_irrefl 0)
  | cons f fs ih =>
      simp only [landAt]
      by_cases hf : f.landed = true
      · have hrest : underway (f :: fs) = underway fs := by simp [underway, hf]
        rw [if_pos hf, hrest]
        rw [hrest] at h
        rw [← ih k h]
        simp [underway, hf]
      · rw [if_neg hf]
        have hcount : underway (f :: fs) = underway fs + 1 := by simp [underway, hf]
        split_ifs with hlast
        · rw [hcount]
          simp [underway]
        · have hpos : 0 < underway fs := by
            rw [Nat.pos_iff_ne_zero]
            intro h0
            rw [Bool.or_eq_true, not_or] at hlast
            exact hlast.2 (underway_eq_zero_iff.1 h0)
          rw [hcount, ← ih (k - 1) hpos]
          simp [underway, hf]

/-! ### One round -/

/-- What holds of a window over a list of jobs between two rounds. -/
structure State.Sound (s : State α β) : Prop where
  /-- No job is lost, doubled or overtaken. -/
  in_order : s.delivered.map (·.job) ++ (s.flights.map (·.job) ++ s.waiting) = jobs
  started_in_order : s.launched ++ s.waiting = jobs
  delivered_isOf : ∀ f ∈ s.delivered, f.IsOf work
  flights_isOf : ∀ f ∈ s.flights, f.IsOf work
  /-- The oldest job in the window is still under way. -/
  front : ∀ f ∈ s.flights.head?, f.landed = false

/-- The jobs that have not finished, under way or not. -/
def State.unfinished (s : State α β) : Nat :=
  s.waiting.length + underway s.flights

variable {work jobs} {order : Order α β} {width : Nat} {s : State α β}

theorem State.Sound.fill_jobs (h : s.Sound work jobs) :
    (s.fill width work).delivered.map (·.job)
      ++ ((s.fill width work).flights.map (·.job) ++ (s.fill width work).waiting) = jobs := by
  have hnew : (s.waiting.take (width - s.flights.length)).map ((·.job) ∘ launch work s.now)
      = s.waiting.take (width - s.flights.length) := List.map_id _
  simp only [State.fill, List.map_append, List.map_map, hnew, List.append_assoc,
    List.take_append_drop]
  exact h.in_order

theorem State.Sound.fill_launched (h : s.Sound work jobs) :
    (s.fill width work).launched ++ (s.fill width work).waiting = jobs := by
  simp only [State.fill, List.append_assoc, List.take_append_drop]
  exact h.started_in_order

theorem State.Sound.fill_isOf (h : s.Sound work jobs) :
    ∀ f ∈ (s.fill width work).flights, f.IsOf work := by
  intro f hf
  rcases List.mem_append.1 hf with hf | hf
  · exact h.flights_isOf f hf
  · obtain ⟨job, -, rfl⟩ := List.mem_map.1 hf
    exact isOf_launch work s.now job

theorem underway_launched (work : α → Timed β) (now : Nat) (new : List α) :
    underway (new.map (launch work now)) = new.length := by
  rw [underway, List.countP_map]
  exact List.countP_eq_length.2 fun _ _ => rfl

theorem unfinished_fill (width : Nat) (work : α → Timed β) (s : State α β) :
    (s.fill width work).unfinished = s.unfinished := by
  have hsplit := congrArg List.length (List.take_append_drop (width - s.flights.length) s.waiting)
  rw [List.length_append] at hsplit
  have hnew := underway_launched work s.now (s.waiting.take (width - s.flights.length))
  simp only [underway] at hnew
  simp only [State.unfinished, State.fill, underway, List.countP_append, hnew]
  omega

/-- A window that is filled has a job under way, if any job has not finished. -/
theorem State.Sound.underway_fill (h : s.Sound work jobs) (hwidth : 0 < width)
    (hpos : 0 < s.unfinished) : 0 < underway (s.fill width work).flights := by
  cases hs : s.flights with
  | nil =>
      have hwaiting : 0 < s.waiting.length := by
        simpa [State.unfinished, underway, hs] using hpos
      have hnew := underway_launched work s.now (s.waiting.take width)
      simp only [State.fill, hs, List.length_nil, Nat.sub_zero, List.nil_append, hnew,
        List.length_take]
      exact Nat.lt_min.2 ⟨hwidth, hwaiting⟩
  | cons f fs =>
      have hf : f.landed = false := h.front f (by rw [hs]; rfl)
      have hmem : f ∈ (s.fill width work).flights := by simp [State.fill, hs]
      exact List.countP_pos_iff.2 ⟨f, hmem, by simp [hf]⟩

theorem underway_deliver (fs : List (Flight α β)) :
    underway (fs.dropWhile (·.landed)) = underway fs := by
  have hzero : underway (fs.takeWhile (·.landed)) = 0 :=
    underway_eq_zero_iff.2 (List.all_eq_true.2 fun _ hf => List.mem_takeWhile_imp hf)
  have hsum : underway fs
      = underway (fs.takeWhile (·.landed)) + underway (fs.dropWhile (·.landed)) := by
    rw [underway, underway, underway, ← List.countP_append, List.takeWhile_append_dropWhile]
  omega

/-- Starting jobs keeps what holds of a window. -/
theorem State.Sound.fill (h : s.Sound work jobs) (width : Nat) : (s.fill width work).Sound work jobs where
  in_order := h.fill_jobs
  started_in_order := h.fill_launched
  delivered_isOf := h.delivered_isOf
  flights_isOf := h.fill_isOf
  front := by
    intro f hf
    simp only [State.fill, List.head?_append] at hf
    cases hs : s.flights with
    | nil =>
        rw [hs, List.head?_nil, Option.none_or] at hf
        obtain ⟨job, -, rfl⟩ := List.mem_map.1 (List.mem_of_mem_head? hf)
        rfl
    | cons g fs =>
        rw [hs] at hf
        exact h.front f (by rw [hs]; exact hf)

/-- So does finishing a job and delivering what is in front. -/
theorem State.Sound.landed (h : s.Sound work jobs) (order : Order α β) :
    (s.land order).deliver.Sound work jobs where
  in_order := by
    have hsplit : ∀ fs : List (Flight α β), (fs.takeWhile (·.landed)).map (·.job)
        ++ (fs.dropWhile (·.landed)).map (·.job) = fs.map (·.job) := by
      intro fs
      rw [← List.map_append, List.takeWhile_append_dropWhile]
    simp only [State.deliver, State.land, List.map_append, List.append_assoc]
    rw [← List.append_assoc (List.map _ (List.takeWhile _ _)), hsplit, map_job_landAt]
    exact h.in_order
  started_in_order := h.started_in_order
  delivered_isOf := by
    intro f hf
    rcases List.mem_append.1 hf with hf | hf
    · exact h.delivered_isOf f hf
    · exact isOf_of_mem_landAt work h.flights_isOf f ((List.takeWhile_sublist _).subset hf)
  flights_isOf := by
    intro f hf
    exact isOf_of_mem_landAt work h.flights_isOf f ((List.dropWhile_sublist _).subset hf)
  front := by
    intro f hf
    have hhead := List.head?_dropWhile_not (fun f : Flight α β => f.landed) (s.land order).flights
    simp only [State.deliver] at hf
    rw [Option.mem_def] at hf
    rw [hf] at hhead
    simpa using hhead

theorem State.unfinished_landed (s : State α β) (order : Order α β) (hpos : 0 < underway s.flights) :
    (s.land order).deliver.unfinished + 1 = s.unfinished := by
  have hland := underway_landAt (order (s.flights.filter fun f => !f.landed)) hpos
  simp only [State.unfinished, State.deliver, underway_deliver, State.land]
  omega

/-- The state after a round in which one job finishes. -/
def State.round (order : Order α β) (width : Nat) (work : α → Timed β) (s : State α β) :
    State α β :=
  ((s.fill width work).land order).deliver

theorem State.Sound.round (h : s.Sound work jobs) : (s.round order width work).Sound work jobs :=
  (h.fill width).landed order

theorem State.Sound.unfinished_round (h : s.Sound work jobs) (order : Order α β) (hwidth : 0 < width)
    (hpos : 0 < s.unfinished) : (s.round order width work).unfinished + 1 = s.unfinished := by
  rw [← unfinished_fill width work s]
  exact (s.fill width work).unfinished_landed order (h.underway_fill hwidth hpos)

/-! ### The whole run -/

theorem State.Sound.rounds (h : s.Sound work jobs) (order : Order α β) (hwidth : 0 < width) {n : Nat}
    (hn : s.unfinished = n) :
    (rounds order width work n s).Sound work jobs
      ∧ (rounds order width work n s).unfinished = 0 := by
  induction n generalizing s with
  | zero => exact ⟨h, hn⟩
  | succ n ih =>
      have hstep := h.unfinished_round order hwidth (by omega)
      rw [hn] at hstep
      exact ih h.round (Nat.succ.inj hstep)

theorem State.Sound.delivered_jobs (h : s.Sound work jobs) (hzero : s.unfinished = 0) :
    s.delivered.map (·.job) = jobs ∧ s.launched = jobs := by
  have hwaiting : s.waiting = [] := List.length_eq_zero_iff.1 (by rw [State.unfinished] at hzero; omega)
  have hlanded : s.flights.all (·.landed) = true :=
    underway_eq_zero_iff.1 (by rw [State.unfinished] at hzero; omega)
  have hflights : s.flights = [] := by
    cases hs : s.flights with
    | nil => rfl
    | cons f fs =>
        have hf : f.landed = false := h.front f (by rw [hs]; rfl)
        simp [hs, hf] at hlanded
  have hjobs := h.in_order
  have hlaunched := h.started_in_order
  rw [hwaiting, hflights, List.map_nil, List.append_nil, List.append_nil] at hjobs
  rw [hwaiting, List.append_nil] at hlaunched
  exact ⟨hjobs, hlaunched⟩

/-- When nothing is left to finish, every job has given, a span after its own start, what its work gives. -/
theorem State.Sound.timed (h : s.Sound work jobs) (hzero : s.unfinished = 0) :
    s.delivered.map (fun f => (⟨f.due - f.started, f.value⟩ : Timed β)) = jobs.map work := by
  have hwork : ∀ f ∈ s.delivered, (⟨f.due - f.started, f.value⟩ : Timed β) = work f.job := by
    intro f hf
    obtain ⟨hvalue, hdue⟩ := h.delivered_isOf f hf
    rw [hvalue, hdue, Nat.add_sub_cancel_left]
  calc s.delivered.map (fun f => (⟨f.due - f.started, f.value⟩ : Timed β))
      = s.delivered.map fun f => work f.job := List.map_congr_left hwork
    _ = (s.delivered.map (·.job)).map work := by rw [List.map_map]; rfl
    _ = jobs.map work := by rw [(h.delivered_jobs hzero).1]

theorem State.Sound.values_eq (h : s.Sound work jobs) (hzero : s.unfinished = 0) :
    s.values = jobs.map fun job => (work job).value := by
  have hvalues := congrArg (List.map Timed.value) (h.timed hzero)
  rwa [List.map_map, List.map_map] at hvalues

theorem sound_start (work : α → Timed β) (start : Nat) (jobs : List α) :
    (⟨start, jobs, [], [], []⟩ : State α β).Sound work jobs where
  in_order := rfl
  started_in_order := rfl
  delivered_isOf := fun _ hf => absurd hf List.not_mem_nil
  flights_isOf := fun _ hf => absurd hf List.not_mem_nil
  front := fun _ hf => absurd hf (by simp)

/-- A run finishes every job once, in the order of the list and with its own result. -/
theorem run_sound (order : Order α β) (width : Nat) (work : α → Timed β) (start : Nat)
    (jobs : List α) :
    (run order width work start jobs).Sound work jobs
      ∧ (run order width work start jobs).unfinished = 0 := by
  have hwidth : 0 < max width 1 := by omega
  exact (sound_start work start jobs).rounds order hwidth rfl

theorem run_launched (start : Nat) : (run order width work start jobs).launched = jobs := by
  obtain ⟨hsound, hzero⟩ := run_sound order width work start jobs
  exact (hsound.delivered_jobs hzero).2

theorem run_timed (start : Nat) :
    (run order width work start jobs).delivered.map (fun f => (⟨f.due - f.started, f.value⟩ : Timed β))
      = jobs.map work := by
  obtain ⟨hsound, hzero⟩ := run_sound order width work start jobs
  exact hsound.timed hzero

theorem run_values (start : Nat) :
    (run order width work start jobs).values = jobs.map fun job => (work job).value := by
  obtain ⟨hsound, hzero⟩ := run_sound order width work start jobs
  exact hsound.values_eq hzero

end LinkSurvey.Window
