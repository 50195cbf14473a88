/-!
UTF-8. Decoding tells each character apart from what could not be decoded: a bad byte, or the longest
start of a character that breaks off, is one `none`.
-/

namespace LinkSurvey.Text.Utf8

def encode (cs : List Char) : List UInt8 :=
  cs.flatMap String.utf8EncodeChar

/-- What the first byte of a character says: how many bytes follow, in which interval the next of them
lies, and the high bits. -/
inductive Lead where
  | ascii (c : Char)
  | more (count : Nat) (low high : UInt8) (bits : Nat)
  | bad

def Lead.of (b : UInt8) : Lead :=
  let n := b.toNat
  if n < 0x80 then .ascii (Char.ofNat n)
  else if n < 0xC2 then .bad
  else if n < 0xE0 then .more 1 0x80 0xBF (n - 0xC0)
  else if n = 0xE0 then .more 2 0xA0 0xBF 0
  else if n = 0xED then .more 2 0x80 0x9F 0xD
  else if n < 0xF0 then .more 2 0x80 0xBF (n - 0xE0)
  else if n = 0xF0 then .more 3 0x90 0xBF 0
  else if n < 0xF4 then .more 3 0x80 0xBF (n - 0xF0)
  else if n = 0xF4 then .more 3 0x80 0x8F 4
  else .bad

/-- Decode with `count` bytes of a character still to come, the next one between `low` and `high`. -/
def decodeFrom (count : Nat) (low high : UInt8) (bits : Nat) : List UInt8 → List (Option Char)
  | [] => if count = 0 then [] else [none]
  | b :: bs =>
    if 0 < count ∧ low ≤ b ∧ b ≤ high then
      let bits := bits * 64 + (b.toNat - 0x80)
      if count = 1 then some (Char.ofNat bits) :: decodeFrom 0 0 0 0 bs
      else decodeFrom (count - 1) 0x80 0xBF bits bs
    else
      let rest :=
        match Lead.of b with
        | .ascii c => some c :: decodeFrom 0 0 0 0 bs
        | .bad => none :: decodeFrom 0 0 0 0 bs
        | .more count low high bits => decodeFrom count low high bits bs
      if count = 0 then rest else none :: rest

def decode (bytes : List UInt8) : List (Option Char) :=
  decodeFrom 0 0 0 0 bytes

/-- The text, if the bytes are nothing but characters. -/
def decode? (bytes : List UInt8) : Option (List Char) :=
  (decode bytes).mapM id

/-- The text with U+FFFD for what could not be decoded. -/
def decodeLossy (bytes : List UInt8) : List Char :=
  (decode bytes).map (·.getD '\uFFFD')

end LinkSurvey.Text.Utf8
