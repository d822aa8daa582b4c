/-
  Percent-encoding of the parts of a URL.

  * A part has a set of ASCII characters that are written as `%` and two digits
    per byte; characters beyond ASCII always are.
  * `encode`: the text of a part; bytes that are already percent-encoded stay.
  * `decode`: the bytes of a text, each `%` with two hexadecimal digits as one.
-/

namespace LoadSwarm.Url

/-- A set of ASCII characters. -/
abbrev CharSet := Char → Bool

/-- Control characters. -/
def controls : CharSet := fun c => c.toNat < 0x20 || c.toNat = 0x7F

/-- What a fragment encodes. -/
def fragmentSet : CharSet := fun c =>
  controls c || c = ' ' || c = '"' || c = '<' || c = '>' || c = '`'

/-- What a path encodes. -/
def pathSet : CharSet := fun c =>
  fragmentSet c || c = '#' || c = '?' || c = '\x7b' || c = '\x7d'

/-- What user info encodes. -/
def userInfoSet : CharSet := fun c =>
  pathSet c || c = '/' || c = ':' || c = ';' || c = '=' || c = '@' || c = '[' || c = '\\' ||
    c = ']' || c = '^' || c = '|'

/-- What a query encodes; in a special URL the apostrophe too. -/
def querySet (special : Bool) : CharSet := fun c =>
  controls c || c = ' ' || c = '"' || c = '#' || c = '<' || c = '>' || (special && c = '\'')

/-- A hexadecimal digit with capital letters. -/
def hexDigit (n : Nat) : Char := (Nat.digitChar n).toUpper

/-- A byte as `%` and two digits. -/
def encodeByte (b : UInt8) : List Char := ['%', hexDigit (b.toNat / 16), hexDigit (b.toNat % 16)]

/-- A character in a part with the given set. -/
def encodeChar (set : CharSet) (c : Char) : List Char :=
  if c.toNat < 0x80 && !set c then [c] else (String.utf8EncodeChar c).flatMap encodeByte

/-- The text of a part with the given set. -/
def encode (set : CharSet) (cs : List Char) : List Char := cs.flatMap (encodeChar set)

/-- The value of a hexadecimal digit. -/
def hexValue? (c : Char) : Option Nat :=
  if c.isDigit then some (c.toNat - '0'.toNat)
  else if 'a' ≤ c && c ≤ 'f' then some (c.toNat - 'a'.toNat + 10)
  else if 'A' ≤ c && c ≤ 'F' then some (c.toNat - 'A'.toNat + 10)
  else none

/-- The bytes of a text; a `%` with two hexadecimal digits stands for one byte. -/
def decode : List Char → List UInt8
  | '%' :: a :: b :: rest =>
    match hexValue? a, hexValue? b with
    | some h, some l => UInt8.ofNat (16 * h + l) :: decode rest
    | _, _ => String.utf8EncodeChar '%' ++ decode (a :: b :: rest)
  | c :: rest => String.utf8EncodeChar c ++ decode rest
  | [] => []

/-- The characters that bytes encode, if they do. -/
def utf8Chars? (bytes : List UInt8) : Option (List Char) :=
  (String.fromUTF8? ⟨bytes.toArray⟩).map String.toList

end LoadSwarm.Url
