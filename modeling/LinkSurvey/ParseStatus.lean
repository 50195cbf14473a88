/-!
How well something could be parsed.
-/

namespace LinkSurvey

inductive ParseStatus where
  | clean
  /-- Parsed in spite of so many errors. -/
  | degraded (errors : Nat)
  | failed
  deriving DecidableEq, Repr

def ParseStatus.ofErrorCount (n : Nat) : ParseStatus :=
  if n = 0 then .clean else .degraded n

@[simp] theorem ParseStatus.ofErrorCount_ne_failed (n : Nat) : ofErrorCount n ≠ .failed := by
  rw [ofErrorCount]
  split <;> simp

end LinkSurvey
