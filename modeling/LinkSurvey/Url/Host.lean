import LinkSurvey.DomainName.Ascii
import LinkSurvey.Url.Percent

/-!
Hosts of URLs: domain names, IPv4 and IPv6 addresses.
-/

namespace LinkSurvey

/-- Why a text is not a URL. -/
inductive UrlError where
  | emptyHost
  | invalidPort
  | invalidIpv4
  | invalidIpv6
  | invalidName
  | invalidHostCharacter
  | relativeWithoutBase
  | relativeToOpaque
  deriving DecidableEq, Repr

def UrlError.message : UrlError → String
  | .emptyHost => "empty host"
  | .invalidPort => "invalid port number"
  | .invalidIpv4 => "invalid IPv4 address"
  | .invalidIpv6 => "invalid IPv6 address"
  | .invalidName => "invalid international domain name"
  | .invalidHostCharacter => "invalid domain character"
  | .relativeWithoutBase => "relative URL without a base"
  | .relativeToOpaque => "relative URL with a cannot-be-a-base base"

namespace Url

open DomainName (splitOn join)

/-- Digits of a number, most significant first. -/
def digitsOf (base n : Nat) : List Char :=
  Nat.toDigits base n

/-- The number that digits of a base write, if all are digits of it. -/
def number? (base : Nat) (cs : List Char) : Option Nat :=
  cs.foldl (fun acc c =>
    match acc, hexValue? c with
    | some n, some d => if d < base then some (n * base + d) else none
    | _, _ => none) (some 0)

/-- A part of an IPv4 address: decimal, octal after `0`, hexadecimal after `0x`. The empty rest after
a base mark is zero. -/
def ipv4Part? : List Char → Option Nat
  | [] => none
  | '0' :: 'x' :: cs => number? 16 cs
  | '0' :: 'X' :: cs => number? 16 cs
  | '0' :: c :: cs => number? 8 (c :: cs)
  | cs => number? 10 cs

/-- The parts of a dotted text, without an empty last one. -/
def dottedParts (cs : List Char) : List (List Char) :=
  let parts := splitOn '.' cs
  if parts.getLast? = some [] then parts.dropLast else parts

/-- A name whose last part is a number has to be an IPv4 address. -/
def endsInNumber (cs : List Char) : Bool :=
  match (dottedParts cs).getLast? with
  | none => false
  | some part => (!part.isEmpty && part.all Char.isDigit) || (ipv4Part? part).isSome

/-- All parts but the last are bytes; the last one fills the bytes that are left. -/
def ipv4? (cs : List Char) : Option UInt32 :=
  let parts := dottedParts cs
  if parts.length > 4 then none
  else
    match parts.mapM ipv4Part? with
    | none => none
    | some numbers =>
      match numbers.reverse with
      | [] => none
      | last :: before =>
        if before.all (· ≤ 255) && last < Nat.pow 256 (4 - before.length) then
          some (UInt32.ofNat
            ((before.reverse ++ List.replicate (4 - before.length) 0).foldl
              (fun n b => n * 256 + b) 0 + last))
        else none

def ipv4Text (address : UInt32) : List Char :=
  let n := address.toNat
  join '.' ([n / 16777216, n / 65536 % 256, n / 256 % 256, n % 256].map (digitsOf 10))

/-- The eight pieces of an IPv6 address. -/
structure Ipv6 where
  pieces : List UInt16
  length_eq : pieces.length = 8
  deriving DecidableEq

instance : Repr Ipv6 := ⟨fun a _ => repr a.pieces⟩

/-- One to four hexadecimal digits. -/
def ipv6Piece? (cs : List Char) : Option Nat :=
  if cs.isEmpty || cs.length > 4 then none else number? 16 cs

/-- A decimal byte without leading zeros. -/
def byte? (cs : List Char) : Option Nat :=
  if cs.isEmpty || (cs.length > 1 && cs.head? == some '0') then none
  else
    match number? 10 cs with
    | some n => if n < 256 then some n else none
    | none => none

/-- Two pieces written as a dotted quadruple of bytes. -/
def embeddedIpv4? (cs : List Char) : Option (List Nat) :=
  match (splitOn '.' cs).mapM byte? with
  | some [a, b, c, d] => some [a * 256 + b, c * 256 + d]
  | _ => none

/-- Pieces between colons. Only the last of all may be a dotted quadruple. -/
def ipv6Pieces? (final : Bool) : List (List Char) → Option (List Nat)
  | [] => some []
  | [last] =>
    match ipv6Piece? last with
    | some n => some [n]
    | none => if final then embeddedIpv4? last else none
  | part :: parts =>
    match ipv6Piece? part, ipv6Pieces? final parts with
    | some n, some ns => some (n :: ns)
    | _, _ => none

/-- What stands before and after the first double colon. -/
def splitDouble : List Char → Option (List Char × List Char)
  | ':' :: ':' :: rest => some ([], rest)
  | c :: rest => (splitDouble rest).map fun (a, b) => (c :: a, b)
  | [] => none

def sidePieces? (final : Bool) (cs : List Char) : Option (List Nat) :=
  if cs.isEmpty then some [] else ipv6Pieces? final (splitOn ':' cs)

/-- Eight pieces, or fewer with a double colon that stands for one or more zeros. -/
def ipv6? (cs : List Char) : Option Ipv6 :=
  let pieces :=
    match splitDouble cs with
    | none => ipv6Pieces? true (splitOn ':' cs)
    | some (before, after) =>
      match sidePieces? false before, sidePieces? true after with
      | some a, some b =>
        if a.length + b.length ≤ 7 then
          some (a ++ List.replicate (8 - (a.length + b.length)) 0 ++ b)
        else none
      | _, _ => none
  match pieces with
  | none => none
  | some ns =>
    if h : ns.length = 8 then some ⟨ns.map UInt16.ofNat, by simpa using h⟩ else none

/-- Length of the run of zeros at the front. -/
def zeroRun (ps : List UInt16) : Nat :=
  (ps.takeWhile (· == 0)).length

/-- Where the first of the longest runs of at least two zeros starts, and its length. -/
def longestZeros (ps : List UInt16) : Option (Nat × Nat) :=
  (List.range ps.length).foldl (fun best i =>
    let n := zeroRun (ps.drop i)
    if n > 1 && n > (best.map Prod.snd).getD 0 then some (i, n) else best) none

def piecesText (ps : List UInt16) : List Char :=
  join ':' (ps.map fun p => digitsOf 16 p.toNat)

def Ipv6.text (a : Ipv6) : List Char :=
  match longestZeros a.pieces with
  | none => piecesText a.pieces
  | some (i, n) => piecesText (a.pieces.take i) ++ [':', ':'] ++ piecesText (a.pieces.drop (i + n))

inductive Host where
  /-- A domain name, or the host of a URL whose scheme gives hosts no meaning; it may be empty. -/
  | name (text : List Char)
  | ipv4 (address : UInt32)
  | ipv6 (address : Ipv6)
  deriving DecidableEq, Repr

def Host.text : Host → List Char
  | .name text => text
  | .ipv4 address => ipv4Text address
  | .ipv6 address => '[' :: address.text ++ [']']

/-- An address in brackets. -/
def bracketed (cs : List Char) : Except UrlError Host :=
  if cs.length < 2 || cs.getLast? != some ']' then .error .invalidIpv6
  else
    match ipv6? (cs.drop 1).dropLast with
    | some a => .ok (.ipv6 a)
    | none => .error .invalidIpv6

/-- The host of a web-like URL. -/
def Host.ofText (cs : List Char) : Except UrlError Host :=
  if cs.head? = some '[' then bracketed cs
  else
    match (Text.Utf8.decode? (percentDecode cs)).bind DomainName.toAscii? with
    | none => .error .invalidName
    | some ascii =>
      if ascii.isEmpty then .error .emptyHost
      else if endsInNumber ascii then
        match ipv4? ascii with
        | some a => .ok (.ipv4 a)
        | none => .error .invalidIpv4
      else .ok (.name ascii)

def isForbiddenInOpaque (c : Char) : Bool :=
  c.toNat == 0
    || ['\t', '\n', '\r', ' ', '#', '/', ':', '<', '>', '?', '@', '[', '\\', ']', '^', '|'].contains c

/-- The host of any other URL is kept as it is written. -/
def Host.ofOpaque (cs : List Char) : Except UrlError Host :=
  if cs.head? = some '[' then bracketed cs
  else if cs.any isForbiddenInOpaque then .error .invalidHostCharacter
  else .ok (.name (percentEncode inControls cs))

end Url

end LinkSurvey
