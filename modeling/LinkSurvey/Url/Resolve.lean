import LinkSurvey.Url.Path

/-!
Reading URLs, absolute or relative to a base. Line breaks and tabs are taken out first, as are blanks
and control characters at both ends; then the text is cut at the delimiters of its components, and
each component is normalized on its own.
-/

namespace LinkSurvey.Url

/-- What is left of a text once ignored characters are taken out. -/
def cleaned (cs : List Char) : List Char :=
  let inner := (cs.dropWhile (·.toNat ≤ 32)).reverse.dropWhile (·.toNat ≤ 32) |>.reverse
  inner.filter fun c => !(['\t', '\n', '\r'].contains c)

def isSchemeChar (c : Char) : Bool :=
  c.isAlphanum || c == '+' || c == '-' || c == '.'

/-- The scheme, in lower case, and what follows its colon. -/
def splitScheme (cs : List Char) : Option (List Char × List Char) :=
  match cs.span isSchemeChar with
  | (name, ':' :: rest) =>
    if name.head?.any Char.isAlpha then some (name.map Char.toLower, rest) else none
  | _ => none

/-- Query and fragment of a URL, from a text that is empty or starts with their marks. -/
def readQuery (k : Kind) (cs : List Char) : Option (List Char) × Option (List Char) :=
  let (before, after) := cs.span (· != '#')
  let query :=
    match before with
    | '?' :: q => some (percentEncode (if k.isSpecial then inSpecialQuery else inQuery) q)
    | _ => none
  let fragment :=
    match after with
    | '#' :: f => some (percentEncode inFragment f)
    | _ => none
  (query, fragment)

/-- The path and what follows it. -/
def splitPath (cs : List Char) : List Char × List Char :=
  cs.span fun c => c != '?' && c != '#'

/-- A URL with the query and fragment that `rest` holds. -/
def withQuery (u : Url) (rest : List Char) : Url :=
  let (query, fragment) := readQuery u.kind rest
  { u with query, fragment }

/-- The end of an authority. -/
def endsAuthority (k : Kind) (c : Char) : Bool :=
  isSlash k c || c == '?' || c == '#'

/-- What stands before and after the last `@`. -/
def splitLastAt (cs : List Char) : Option (List Char × List Char) :=
  let (after, before) := cs.reverse.span (· != '@')
  match before with
  | '@' :: b => some (b.reverse, after.reverse)
  | _ => none

/-- User and password. -/
def readCredentials (cs : List Char) : List Char × List Char :=
  let (user, rest) := cs.span (· != ':')
  (percentEncode inUserinfo user, percentEncode inUserinfo (rest.drop 1))

/-- Cut at the first colon outside of brackets. -/
def splitPort (bracketed : Bool) : List Char → List Char × List Char
  | [] => ([], [])
  | c :: cs =>
    if c = ':' && !bracketed then ([], c :: cs)
    else
      let (host, rest) := splitPort (c == '[' || (bracketed && c != ']')) cs
      (c :: host, rest)

/-- A port number. No digits at all and the default of the scheme mean the same. -/
def readPort (k : Kind) (digits : List Char) : Except UrlError (Option UInt16) :=
  if !digits.all Char.isDigit then .error .invalidPort
  else
    match number? 10 digits with
    | none => .error .invalidPort
    | some n =>
      if 65535 < n then .error .invalidPort
      else if digits.isEmpty || k = .web n then .ok none
      else .ok (some (UInt16.ofNat n))

/-- The host of an authority that is neither a file's nor empty where it must not be. -/
def readHost (k : Kind) (cs : List Char) : Except UrlError Host :=
  if k.isSpecial then
    if cs.isEmpty then .error .emptyHost else Host.ofText cs
  else Host.ofOpaque cs

/-- An authority, and the text of a path that a backslash after its port starts. -/
def readAuthority (k : Kind) (cs : List Char) (last : Bool) :
    Except UrlError (Authority × List Char) := do
  let (credentials, hostPort) := (splitLastAt cs).getD ([], cs)
  if (splitLastAt cs).isSome && credentials.isEmpty && hostPort.isEmpty && !last then
    throw .emptyHost
  let (user, password) := readCredentials credentials
  let (hostText, portText) := splitPort false hostPort
  let host ← readHost k hostText
  let (digits, path) := (portText.drop 1).span (· != '\\')
  if host = .name [] && !portText.isEmpty then throw .emptyHost
  let port ← readPort k digits
  if host = .name [] && !(user.isEmpty && password.isEmpty) then throw .emptyHost
  return (⟨user, password, host, port⟩, path)

/-- What follows the two slashes of a URL that is not a file's. -/
def afterSlashes (scheme cs : List Char) : Except UrlError Url := do
  let k := Kind.of scheme
  let (authorityText, rest) := cs.span fun c => !endsAuthority k c
  let (authority, pathStart) ← readAuthority k authorityText rest.isEmpty
  let (path, rest) := splitPath rest
  return withQuery ⟨scheme, some authority, .segments (readPathStart k (pathStart ++ path)), none, none⟩
    rest

/-- What follows the scheme of a URL whose scheme has no rules of its own. -/
def otherUrl (scheme cs : List Char) : Except UrlError Url :=
  match cs with
  | '/' :: '/' :: rest => afterSlashes scheme rest
  | '/' :: rest =>
    let (path, rest) := splitPath rest
    .ok (withQuery ⟨scheme, none, .segments (readPath .other [] path), none, none⟩ rest)
  | _ =>
    let (path, rest) := splitPath cs
    .ok (withQuery ⟨scheme, none, .opaqueText (percentEncode inControls path), none, none⟩ rest)

def anySlash (c : Char) : Bool :=
  c == '/' || c == '\\'

/-- The segments a relative path starts from: all but the last. -/
def parentSegments (u : Url) : List Segment :=
  match u.path with
  | .segments names => (dropSegment u.kind names.reverse).reverse
  | .opaqueText _ => []

/-- A reference without scheme, or with that of the base, to a base that is not a file. -/
def relativeUrl (base : Url) (cs : List Char) : Except UrlError Url :=
  match cs with
  | [] => .ok { base with fragment := none }
  | '?' :: _ => .ok (withQuery base cs)
  | '#' :: _ => .ok { base with fragment := (readQuery base.kind cs).2 }
  | c :: rest =>
    if anySlash c then
      if rest.head?.any anySlash then
        afterSlashes base.scheme
          (if c = '/' && rest.head? = some '/' then rest.drop 1 else cs.dropWhile anySlash)
      else
        let (path, after) := splitPath rest
        .ok (withQuery { base with path := .segments (readPath base.kind [] path) } after)
    else
      let (path, after) := splitPath cs
      .ok (withQuery { base with
        path := .segments (readPath base.kind base.parentSegments path) } after)

/-- A file's host. The local one has no name. -/
def readFileHost (cs : List Char) : Except UrlError Host :=
  if cs.isEmpty then .ok (.name [])
  else
    match Host.ofText cs with
    | .ok (.name n) => .ok (.name (if n = ['l', 'o', 'c', 'a', 'l', 'h', 'o', 's', 't'] then [] else n))
    | r => r

def fileUrl (host : Host) (segments : List Segment) (rest : List Char) : Url :=
  withQuery ⟨['f', 'i', 'l', 'e'], some { host }, .segments segments, none, none⟩ rest

def hostOf (u : Url) : Host :=
  match u.authority with
  | some a => a.host
  | none => .name []

/-- The first segment of a path. -/
def firstSegment (u : Url) : Segment :=
  match u.path with
  | .segments (s :: _) => s
  | _ => []

/-- A file's URL, or a reference to one. -/
def fileReference (base : Option Url) (cs : List Char) : Except UrlError Url :=
  match cs with
  | c :: d :: rest =>
    if anySlash c && anySlash d then withHost rest
    else if anySlash c then .ok (fromRoot (d :: rest))
    else .ok (relative cs)
  | [c] => .ok (if anySlash c then fromRoot [] else relative cs)
  | [] => .ok (relative [])
where
  withHost (cs : List Char) : Except UrlError Url :=
    let (hostText, rest) := cs.span fun c => !endsAuthority .file c
    if isDriveLetter hostText then
      let (path, rest) := splitPath cs
      .ok (fileUrl (.name []) (readPath .file [] path) rest)
    else
      match readFileHost hostText with
      | .error e => .error e
      | .ok host =>
        let (path, rest) := splitPath rest
        let segments := readPathStart .file path
        let host := if segments.head?.any isNormalDriveLetter then .name [] else host
        .ok (fileUrl host segments rest)
  fromRoot (cs : List Char) : Url :=
    let (path, rest) := splitPath cs
    match base with
    | some b =>
      if startsWithDriveLetter cs then fileUrl (.name []) (readPath .file [] path) rest
      else if isNormalDriveLetter b.firstSegment then
        fileUrl (.name []) (readPath .file [b.firstSegment] path) rest
      else fileUrl b.hostOf (readPath .file [] path) rest
    | none => fileUrl (.name []) (readPath .file [] path) rest
  relative (cs : List Char) : Url :=
    match base, cs with
    | some b, [] => { b with fragment := none }
    | some b, '?' :: _ => withQuery b cs
    | some b, '#' :: _ => { b with fragment := (readQuery .file cs).2 }
    | some b, _ =>
      let (path, rest) := splitPath cs
      if startsWithDriveLetter cs then fileUrl (.name []) (readPath .file [] path) rest
      else fileUrl b.hostOf (readPath .file b.parentSegments path) rest
    | none, _ =>
      let (path, rest) := splitPath cs
      fileUrl (.name []) (readPath .file [] path) rest

/-- What follows a scheme. A web-like URL with fewer than two slashes is relative to a base of its own
scheme. -/
def absoluteUrl (base : Option Url) (scheme cs : List Char) : Except UrlError Url :=
  match Kind.of scheme with
  | .file => fileReference (base.filter (·.scheme == scheme)) cs
  | .other => otherUrl scheme cs
  | .web _ =>
    match base.filter fun b => b.scheme == scheme && (cs.takeWhile anySlash).length < 2 with
    | some b => relativeUrl b cs
    | none => afterSlashes scheme (cs.dropWhile anySlash)

/-- The URL that a text stands for, seen from a base if there is one. -/
def resolve (base : Option Url) (text : List Char) : Except UrlError Url :=
  let cs := cleaned text
  match splitScheme cs with
  | some (scheme, rest) => absoluteUrl base scheme rest
  | none =>
    match base with
    | none => .error .relativeWithoutBase
    | some b =>
      if cs.head? = some '#' then .ok { b with fragment := (readQuery b.kind cs).2 }
      else if b.isOpaque then .error .relativeToOpaque
      else if b.kind = .file then fileReference (some b) cs
      else relativeUrl b cs

/-- An absolute URL. -/
def parse (s : String) : Except UrlError Url :=
  resolve none s.toList

/-- A reference seen from a page. -/
def join (base : Url) (s : String) : Except UrlError Url :=
  resolve (some base) s.toList

end LinkSurvey.Url
