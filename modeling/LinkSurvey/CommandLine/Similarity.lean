/-!
How similar two words are, to guess what was meant by an unknown one. Two letters match if they are
equal and not too far apart in their words; letters that match in different orders count half.
-/

namespace LinkSurvey.CommandLine

/-- Matches of a word with the positions of another one that are not taken yet: the positions of the
letters that match, each with that of its partner. Positions are at most `reach` apart. -/
def matchesFrom (reach i : Nat) (other : List (Nat × Char)) : List Char → List (Nat × Nat)
  | [] => []
  | c :: cs =>
    match other.find? fun (j, d) => d == c && i ≤ j + reach && j ≤ i + reach with
    | some (j, _) => (i, j) :: matchesFrom reach (i + 1) (other.filter fun p => p.1 != j) cs
    | none => matchesFrom reach (i + 1) other cs

/-- How many letters of two lists of the same length differ. -/
def differences (a b : List Char) : Nat :=
  ((a.zip b).filter fun (x, y) => x != y).length

/-- The mean of three shares: the matches in either word, and those of them in the same order. -/
def similarity (a b : List Char) : Float :=
  let pairs := matchesFrom (max a.length b.length / 2 - 1) 0 (b.zipIdx.map Prod.swap) a
  let m := pairs.length
  if m = 0 then 0
  else
    let ofA := pairs.filterMap fun (i, _) => a[i]?
    let ofB := b.zipIdx.filterMap fun (c, j) => if pairs.any (·.2 == j) then some c else none
    let swaps := differences ofA ofB / 2
    (m.toFloat / a.length.toFloat + m.toFloat / b.length.toFloat + (m - swaps).toFloat / m.toFloat) / 3

/-- The candidate most similar to a word, if it is similar at all, and of several the last. -/
def closest? {α : Type} (spelling : α → List Char) (word : List Char) (candidates : List α) :
    Option α :=
  let best := candidates.foldl (fun (best : Float × Option α) c =>
    let s := similarity word (spelling c)
    if 0.7 < s && best.1 ≤ s then (s, some c) else best) (0, none)
  best.2

end LinkSurvey.CommandLine
