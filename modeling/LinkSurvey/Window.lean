import LinkSurvey.Timed

/-!
Working through a list with a bounded number of jobs unfinished. Jobs start in the order of the list
and finish in any order. Their results are delivered in the order of the list, and a job that has
finished keeps its place in the window until it is delivered. Which of the unfinished jobs finishes
next is for an order to say; the clock is one such order.
-/

namespace LinkSurvey.Window

variable {α β : Type}

/-- A job under way. -/
structure Flight (α β : Type) where
  job : α
  started : Nat
  due : Nat
  value : β
  landed : Bool

structure State (α β : Type) where
  now : Nat
  waiting : List α
  /-- All jobs that were started, in that order. -/
  launched : List α
  /-- The jobs in the window, the oldest first. -/
  flights : List (Flight α β)
  delivered : List (Flight α β)

/-- Which of the jobs still under way finishes next. -/
abbrev Order (α β : Type) := List (Flight α β) → Nat

/-- The job that is due first, and of several the oldest. -/
def clock : Order α β
  | [] => 0
  | f :: fs => if fs.all (fun g => f.due ≤ g.due) then 0 else clock fs + 1

def launch (work : α → Timed β) (now : Nat) (job : α) : Flight α β :=
  let result := work job
  ⟨job, now, now + result.span, result.value, false⟩

/-- Start jobs until the window is full. -/
def State.fill (width : Nat) (work : α → Timed β) (s : State α β) : State α β :=
  let room := width - s.flights.length
  { s with
    waiting := s.waiting.drop room
    launched := s.launched ++ s.waiting.take room
    flights := s.flights ++ (s.waiting.take room).map (launch work s.now) }

/-- Finish the `k`-th of the jobs still under way, or the last of them if there are not so many. -/
def landAt (k : Nat) : List (Flight α β) → List (Flight α β)
  | [] => []
  | f :: fs =>
    if f.landed then f :: landAt k fs
    else if k == 0 || fs.all (·.landed) then { f with landed := true } :: fs
    else f :: landAt (k - 1) fs

/-- Finish one job and move on to the time when it is due. -/
def State.land (order : Order α β) (s : State α β) : State α β :=
  let flights := landAt (order (s.flights.filter fun f => !f.landed)) s.flights
  { s with
    flights
    now := (flights.filter (·.landed)).foldl (fun t f => max t f.due) s.now }

/-- Deliver the finished jobs in front of the window. -/
def State.deliver (s : State α β) : State α β :=
  { s with
    delivered := s.delivered ++ s.flights.takeWhile (·.landed)
    flights := s.flights.dropWhile (·.landed) }

/-- One job finishes in each round. -/
def rounds (order : Order α β) (width : Nat) (work : α → Timed β) : Nat → State α β → State α β
  | 0, s => s
  | n + 1, s => rounds order width work n ((s.fill width work).land order).deliver

/-- Work through all jobs, at most `width` of them at a time and never none. -/
def run (order : Order α β) (width : Nat) (work : α → Timed β) (start : Nat) (jobs : List α) :
    State α β :=
  rounds order (max width 1) work jobs.length ⟨start, jobs, [], [], []⟩

def State.values (s : State α β) : List β :=
  s.delivered.map (·.value)

end LinkSurvey.Window
