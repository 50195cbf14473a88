import LinkSurvey.Url.Host

/-!
URLs by component, and their text. All components hold their encoded form, so the text is nothing but
the components with their delimiters.
-/

namespace LinkSurvey

namespace Url

abbrev Segment := List Char

inductive Path where
  /-- A path without structure, such as that of a `data:` URL. -/
  | opaqueText (text : List Char)
  | segments (names : List Segment)
  deriving DecidableEq, Repr

/-- A slash before each segment. -/
def segmentsText (names : List Segment) : List Char :=
  names.flatMap ('/' :: ·)

def Path.text : Path → List Char
  | .opaqueText text => text
  | .segments names => segmentsText names

structure Authority where
  user : List Char := []
  /-- Empty if there is none. -/
  password : List Char := []
  host : Host
  /-- Absent if it is the default of the scheme. -/
  port : Option UInt16 := none
  deriving DecidableEq, Repr

def Authority.credentials (a : Authority) : List Char :=
  if a.user.isEmpty && a.password.isEmpty then []
  else a.user ++ (if a.password.isEmpty then [] else ':' :: a.password) ++ ['@']

def Authority.portText (a : Authority) : List Char :=
  match a.port with
  | none => []
  | some p => ':' :: digitsOf 10 p.toNat

def Authority.text (a : Authority) : List Char :=
  a.credentials ++ a.host.text ++ a.portText

end Url

structure Url where
  scheme : List Char
  authority : Option Url.Authority
  path : Url.Path
  query : Option (List Char) := none
  fragment : Option (List Char) := none
  deriving DecidableEq, Repr

namespace Url

/-- How a scheme treats what follows it. -/
inductive Kind where
  /-- The schemes whose URLs always have a host, with their default ports. -/
  | web (defaultPort : Nat)
  | file
  | other
  deriving DecidableEq, Repr

def http : List Char := ['h', 't', 't', 'p']

def https : List Char := ['h', 't', 't', 'p', 's']

def Kind.of (scheme : List Char) : Kind :=
  if scheme = http then .web 80
  else if scheme = https then .web 443
  else if scheme = ['w', 's'] then .web 80
  else if scheme = ['w', 's', 's'] then .web 443
  else if scheme = ['f', 't', 'p'] then .web 21
  else if scheme = ['f', 'i', 'l', 'e'] then .file
  else .other

def Kind.isSpecial : Kind → Bool
  | .other => false
  | _ => true

def kind (u : Url) : Kind :=
  Kind.of u.scheme

/-- Relative references cannot be resolved against such a URL. -/
def isOpaque (u : Url) : Bool :=
  u.path matches .opaqueText _

/-- The text before the path. A path that starts with an empty segment is kept apart from an
authority by a dot segment. -/
def beforePath (u : Url) : List Char :=
  u.scheme ++ ':' ::
    match u.authority, u.path with
    | some a, _ => '/' :: '/' :: a.text
    | none, .segments ([] :: _ :: _) => ['/', '.']
    | none, _ => []

def withMark (mark : Char) : Option (List Char) → List Char
  | none => []
  | some text => mark :: text

def text (u : Url) : List Char :=
  u.beforePath ++ u.path.text ++ withMark '?' u.query ++ withMark '#' u.fragment

def toString (u : Url) : String :=
  String.ofList u.text

/-- Whether the URL is of one of the two schemes that pages are fetched by. -/
def isHttp (u : Url) : Bool :=
  u.scheme == http || u.scheme == https

end Url

end LinkSurvey
