/-!
Patterns over text: a sequence of character classes, each with a way of repeating, matched with
backtracking. Where a repetition leaves a choice, the choices are tried in the order its kind
prefers, and the first one that lets the rest of the pattern match is taken. `findAll` lists the
matches from left to right, each starting where the one before ended.
-/

namespace LinkSurvey.Text

/-- How often a class may be repeated, and which number of repetitions is tried first. -/
inductive Repeat where
  | once
  | atMostOnce
  | most
  | fewest
  deriving DecidableEq, Repr

/-- A repeated class. The text of a `kept` part belongs to what the match yields. -/
structure Part where
  accepts : Char → Bool
  times : Repeat := .once
  kept : Bool := true

abbrev Pattern := List Part

namespace Part

variable {β : Type}

/-- Longest first: `taken` is what has been read, last character first. -/
def chooseMost (ok : Char → Bool) (next : List Char → List Char → Option β) :
    List Char → List Char → Option β
  | taken, [] => next taken []
  | taken, c :: cs =>
    if ok c then
      match chooseMost ok next (c :: taken) cs with
      | some r => some r
      | none => next taken (c :: cs)
    else next taken (c :: cs)

/-- Shortest first. -/
def chooseFewest (ok : Char → Bool) (next : List Char → List Char → Option β) :
    List Char → List Char → Option β
  | taken, [] => next taken []
  | taken, c :: cs =>
    match next taken (c :: cs) with
    | some r => some r
    | none => if ok c then chooseFewest ok next (c :: taken) cs else none

/-- All ways in which a part may read from the front of a text, each handed on to `next` with the
text it took, last character first. -/
def choose (p : Part) (cs : List Char) (next : List Char → List Char → Option β) : Option β :=
  match p.times, cs with
  | .once, [] => none
  | .once, c :: rest => if p.accepts c then next [c] rest else none
  | .atMostOnce, [] => next [] []
  | .atMostOnce, c :: rest =>
    if p.accepts c then
      match next [c] rest with
      | some r => some r
      | none => next [] (c :: rest)
    else next [] (c :: rest)
  | .most, cs => chooseMost p.accepts next [] cs
  | .fewest, cs => chooseFewest p.accepts next [] cs

end Part

namespace Pattern

/-- A fixed text. -/
def literal (kept : Bool) (s : String) : Pattern :=
  s.toList.map fun c => ⟨(· == c), .once, kept⟩

/-- Match at the front of a text: the kept text and what follows the match. -/
def matchFront : Pattern → List Char → Option (List Char × List Char)
  | [], cs => some ([], cs)
  | p :: ps, cs =>
    p.choose cs fun taken rest =>
      match matchFront ps rest with
      | none => none
      | some (text, after) => some (if p.kept then taken.reverse ++ text else text, after)

/-- The kept texts of all matches, leftmost first and without overlap. -/
def findAll (p : Pattern) (cs : List Char) : List (List Char) :=
  match p.matchFront cs with
  | some (text, after) =>
    if after.length < cs.length then text :: findAll p after
    else
      match cs with
      | [] => [text]
      | _ :: rest => text :: findAll p rest
  | none =>
    match cs with
    | [] => []
    | _ :: rest => findAll p rest
termination_by cs.length

end Pattern

end LinkSurvey.Text
