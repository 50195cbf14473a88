/-!
Values on a clock that counts nanoseconds.
-/

namespace LinkSurvey

/-- A value and the time that it takes to come by. -/
structure Timed (α : Type) where
  span : Nat
  value : α

/-- A value and the time at which it is there. -/
structure Dated (α : Type) where
  time : Nat
  value : α

namespace Dated

variable {α : Type}

def later (offset : Nat) (d : Dated α) : Dated α :=
  { d with time := offset + d.time }

/-- In the order of time; what is there at the same time keeps its order. -/
def inOrder (l : List (Dated α)) : List (Dated α) :=
  l.mergeSort fun a b => a.time ≤ b.time

end Dated

end LinkSurvey
