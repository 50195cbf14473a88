import LinkSurvey.Url.Basic

/-!
Hierarchical paths. A path is read part by part; `.` leaves it as it is and `..` takes back the last
segment, but never one that reads like the letter of a drive, whatever the scheme. The segments read so
far are kept last one first.
-/

namespace LinkSurvey.Url

def isSlash (k : Kind) (c : Char) : Bool :=
  c == '/' || (c == '\\' && k.isSpecial)

/-- The parts of a path text between slashes, encoded or not. -/
def splitSlashes (k : Kind) : List Char → List Segment
  | [] => [[]]
  | c :: cs =>
    if isSlash k c then [] :: splitSlashes k cs
    else
      match splitSlashes k cs with
      | [] => [[c]]
      | part :: parts => (c :: part) :: parts

/-- One dot, which may be encoded. -/
def isSingleDot (part : Segment) : Bool :=
  match part with
  | ['.'] => true
  | ['%', '2', e] => e == 'e' || e == 'E'
  | _ => false

/-- Two dots, each of which may be encoded. -/
def isDoubleDot (part : Segment) : Bool :=
  match part with
  | '.' :: rest => isSingleDot rest
  | '%' :: '2' :: e :: rest => (e == 'e' || e == 'E') && isSingleDot rest
  | _ => false

/-- A letter and a colon or bar. -/
def isDriveLetter (part : Segment) : Bool :=
  match part with
  | [c, d] => c.isAlpha && (d == ':' || d == '|')
  | _ => false

def isNormalDriveLetter (part : Segment) : Bool :=
  isDriveLetter part && part.getLast? == some ':'

/-- Whether a text starts with a drive letter that is a whole segment. -/
def startsWithDriveLetter (cs : List Char) : Bool :=
  isDriveLetter (cs.take 2) && (cs.drop 2).head?.all ['/', '\\', '?', '#'].contains

/-- All but the last segment, which a relative path takes the place of; the drive letter of a file stays. -/
def dropSegment (k : Kind) (stack : List Segment) : List Segment :=
  match stack with
  | [] => []
  | [drive] => if k = .file && isNormalDriveLetter drive then [drive] else []
  | _ :: rest => rest

/-- What two dots lead to: the last segment is taken back unless it is a letter and a colon or bar. -/
def stepBack : List Segment → List Segment
  | [] => []
  | last :: rest => if isDriveLetter last then last :: rest else rest

/-- Add a part that is not a dot segment. -/
def pushSegment (k : Kind) (stack : List Segment) (part : Segment) : List Segment :=
  if k = .file && stack.isEmpty && isDriveLetter part then [part.take 1 ++ [':']]
  else percentEncode inPath part :: stack

/-- Read the parts of a path on top of `stack`. A dot segment at the end leaves a slash there. -/
def walkPath (k : Kind) (stack : List Segment) : List Segment → List Segment
  | [] => stack
  | part :: parts =>
    let next :=
      if isDoubleDot part then stepBack stack
      else if isSingleDot part then stack
      else pushSegment k stack part
    if parts.isEmpty && (isDoubleDot part || isSingleDot part) then [] :: next
    else walkPath k next parts

/-- In a file path, empty segments in front are dropped as long as others follow. -/
def dropEmptyFront : List Segment → List Segment
  | [] :: part :: parts => dropEmptyFront (part :: parts)
  | parts => parts

/-- The path that a text, read after the segments `start`, amounts to. -/
def readPath (k : Kind) (start : List Segment) (cs : List Char) : List Segment :=
  let segments := (walkPath k start.reverse (splitSlashes k cs)).reverse
  if k = .file then dropEmptyFront segments else segments

/-- The path after an authority. Where hosts have a meaning it has at least one segment. -/
def readPathStart (k : Kind) (cs : List Char) : List Segment :=
  match cs with
  | [] => if k.isSpecial then [[]] else []
  | c :: rest => if isSlash k c then readPath k [] rest else readPath k [] cs

end LinkSurvey.Url
