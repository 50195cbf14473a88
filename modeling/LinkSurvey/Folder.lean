import LinkSurvey.Text.Utf8

/-!
The files that a run can see, and the folders that hold them. A run writes files but makes no folders.
-/

namespace LinkSurvey

/-- Why a file could not be read or written. -/
inductive FileError where
  | notFound
  | notFolder
  | isFolder
  | nameTooLong
  | containsNul
  | notText
  deriving DecidableEq, Repr

def FileError.message : FileError → String
  | .notFound => "IO error: No such file or directory (os error 2)"
  | .notFolder => "IO error: Not a directory (os error 20)"
  | .isFolder => "IO error: Is a directory (os error 21)"
  | .nameTooLong => "IO error: File name too long (os error 36)"
  | .containsNul => "IO error: file name contained an unexpected NUL byte"
  | .notText => "IO error: stream did not contain valid UTF-8"

/-- The names on the way from the outermost folder. -/
abbrev Place := List (List Char)

inductive Entry where
  | folder
  | file (bytes : List UInt8)

structure Folder where
  /-- Where paths start that do not start with a slash. -/
  current : Place
  /-- Folders that are there whether or not they hold files. -/
  folders : List Place := []
  files : List (Place × List UInt8) := []

namespace Folder

/-- The names between the slashes of a path. -/
def namesFrom (name : List Char) : List Char → List (List Char)
  | [] => if name.isEmpty then [] else [name.reverse]
  | c :: cs =>
    if c = '/' then (if name.isEmpty then [] else [name.reverse]) ++ namesFrom [] cs
    else namesFrom (c :: name) cs

def names (path : List Char) : List (List Char) :=
  namesFrom [] path

def entry? (f : Folder) (p : Place) : Option Entry :=
  match f.files.lookup p with
  | some bytes => some (.file bytes)
  | none =>
    if (f.current :: f.folders ++ f.files.map Prod.fst).any p.isPrefixOf then some .folder else none

/-- Where a name leads from a folder. -/
def step (here : Place) (name : List Char) : Place :=
  if name = ['.'] then here
  else if name = ['.', '.'] then here.dropLast
  else here ++ [name]

/-- Where names lead from a folder. All but the last must be those of folders. -/
def walk (f : Folder) (here : Place) : List (List Char) → Except FileError Place
  | [] => .ok here
  | name :: names =>
    if 255 < (Text.Utf8.encode name).length then .error .nameTooLong
    else if names.isEmpty then .ok (step here name)
    else
      match f.entry? (step here name) with
      | some .folder => f.walk (step here name) names
      | some (.file _) => .error .notFolder
      | none => .error .notFound

/-- The place of a path. -/
def locate (f : Folder) (path : List Char) : Except FileError Place :=
  if path.any (· == '\x00') then .error .containsNul
  else if path.isEmpty then .error .notFound
  else if 4095 < (Text.Utf8.encode path).length then .error .nameTooLong
  else f.walk (if path.head? = some '/' then [] else f.current) (names path)

/-- The bytes of a file. A path that ends in a slash can only be that of a folder. -/
def read (f : Folder) (path : List Char) : Except FileError (List UInt8) := do
  match f.entry? (← f.locate path) with
  | none => .error .notFound
  | some .folder => .error .isFolder
  | some (.file bytes) => if path.getLast? = some '/' then .error .notFolder else .ok bytes

def readText (f : Folder) (path : List Char) : Except FileError (List Char) := do
  match Text.Utf8.decode? (← f.read path) with
  | some text => .ok text
  | none => .error .notText

/-- Put a file in the place of another one, or after all others. -/
def put (p : Place) (bytes : List UInt8) :
    List (Place × List UInt8) → List (Place × List UInt8)
  | [] => [(p, bytes)]
  | (q, old) :: rest => if q = p then (p, bytes) :: rest else (q, old) :: put p bytes rest

/-- Write a text to a file, in place of what it held. -/
def writeText (f : Folder) (path : List Char) (text : List Char) : Except FileError Folder := do
  let p ← f.locate path
  match f.entry? p with
  | some .folder => .error .isFolder
  | _ =>
    if path.getLast? = some '/' then .error .isFolder
    else .ok { f with files := put p (Text.Utf8.encode text) f.files }

end Folder

end LinkSurvey
