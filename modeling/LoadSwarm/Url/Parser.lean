/-
  Reading URLs.

  * `Url.parse`: control characters and spaces around a URL and tabs and line ends
    inside it have no effect; a text without a scheme is relative and refused.
  * A scheme with hosts of the network takes any number of slashes before its
    authority; every other scheme needs exactly two.
-/
import LoadSwarm.Url.Domain
import LoadSwarm.Url.Path

namespace LoadSwarm.Url

/-- Control characters and spaces, which have no effect around a URL. -/
def isOuterBlank (c : Char) : Bool := c.toNat ≤ 0x20

/-- A text without control characters and spaces at its ends, tabs and line ends left out. -/
def cleanInput (cs : List Char) : List Char :=
  (((cs.dropWhile isOuterBlank).reverse.dropWhile isOuterBlank).reverse).filter (!isSkipped ·)

/-- A character of a scheme after its first letter. -/
def isSchemeChar (c : Char) : Bool := c.isAlphanum || c = '+' || c = '-' || c = '.'

/-- The scheme in small letters with what follows its colon. -/
def readScheme? (cs : List Char) : Option (List Char × List Char) :=
  match cs with
  | [] => none
  | c :: _ =>
    if c.isAlpha then
      match cs.dropWhile isSchemeChar with
      | ':' :: rest => some ((cs.takeWhile isSchemeChar).map Char.toLower, rest)
      | _ => none
    else none

/-- A character that ends an authority. -/
def endsAuthority (kind : SchemeKind) (c : Char) : Bool :=
  c = '/' || c = '?' || c = '#' || (kind.isSpecial && c = '\\')

/-- The two sides of the last occurrence of a character, if it occurs. -/
def splitLast (x : Char) (cs : List Char) : Option (List Char × List Char) :=
  if cs.contains x then
    let back := cs.reverse
    some ((back.dropWhile (· ≠ x)).drop 1 |>.reverse, (back.takeWhile (· ≠ x)).reverse)
  else none

/-- User name and password of a user info, encoded. -/
def readUserInfo (cs : List Char) : List Char × List Char :=
  (encode userInfoSet (cs.takeWhile (· ≠ ':')),
    encode userInfoSet ((cs.dropWhile (· ≠ ':')).drop 1))

/-- Splits a host from what follows it: colons inside brackets belong to the host. -/
def takeHost : Bool → List Char → List Char × List Char
  | _, [] => ([], [])
  | inside, c :: cs =>
    if c = ':' ∧ inside = false then ([], c :: cs)
    else
      let inside := if c = '[' then true else if c = ']' then false else inside
      let (h, rest) := takeHost inside cs
      (c :: h, rest)

/-- An address in brackets. -/
def readBracketed (cs : List Char) : Except UrlError Host :=
  if cs.getLast? = some ']' then
    match parseSix ((cs.drop 1).dropLast) with
    | some gs => .ok (.six gs)
    | none => .error .badSix
  else .error .badSix

/-- The host of a special URL: an address, or a name in its ASCII form. -/
def readSpecialHost (cs : List Char) : Except UrlError Host :=
  if cs.head? = some '[' then readBracketed cs
  else
    match (utf8Chars? (decode cs)).bind domainToAscii with
    | none => .error .badDomain
    | some [] => .error .emptyHost
    | some name =>
      if endsInNumber name then
        match parseFour name with
        | some n => .ok (.four n)
        | none => .error .badFour
      else .ok (.name name)

/-- Characters that no host holds, whatever the scheme. -/
def forbiddenInHost (c : Char) : Bool :=
  c.toNat = 0 || isSkipped c || c = ' ' || c = '#' || c = '/' || c = ':' || c = '<' || c = '>' ||
    c = '?' || c = '@' || c = '[' || c = '\\' || c = ']' || c = '^' || c = '|'

/-- The host of a URL of another scheme, encoded as it is. -/
def readOtherHost (cs : List Char) : Except UrlError Host :=
  if cs.head? = some '[' then readBracketed cs
  else if cs.any forbiddenInHost then .error .badHostCharacter
  else if cs = [] then .ok .absent
  else .ok (.name (encode controls cs))

/-- A port: digits up to 65535; none, or the one the scheme means, is left out. -/
def readPort (scheme cs : List Char) : Except UrlError (Option Nat) :=
  if cs = [] then .ok none
  else if cs.all Char.isDigit ∧ digitsValue cs ≤ 65535 then
    .ok (if defaultPort scheme = some (digitsValue cs) then none else some (digitsValue cs))
  else .error .badPort

/-- Host and port after the user info. -/
def readHostPort (scheme : List Char) (kind : SchemeKind) (cs : List Char) :
    Except UrlError (Host × Option Nat) := do
  let (host, rest) := takeHost false cs
  let h ← if kind.isSpecial then
      if host = [] then .error .emptyHost else readSpecialHost host
    else readOtherHost host
  match rest with
  | ':' :: port =>
    if h = .absent then .error .emptyHost
    else return (h, ← readPort scheme port)
  | _ => return (h, none)

/-- The authority from its whole text; `followed` tells whether anything stands after it.  A
    user needs a host, and so does an empty user info before anything more. -/
def readAuthority (scheme : List Char) (kind : SchemeKind) (followed : Bool) (cs : List Char) :
    Except UrlError Authority := do
  match splitLast '@' cs with
  | none =>
    let (h, p) ← readHostPort scheme kind cs
    return ⟨[], [], h, p⟩
  | some (info, rest) =>
    let (user, password) := readUserInfo info
    let (h, p) ← readHostPort scheme kind rest
    if h = .absent ∧ (user ≠ [] ∨ password ≠ [] ∨ (info = [] ∧ followed)) then .error .emptyHost
    else return ⟨user, password, h, p⟩

/-- Query and fragment of what follows a path. -/
def readTail (kind : SchemeKind) (cs : List Char) : Option (List Char) × Option (List Char) :=
  let fragment := match cs.dropWhile (· ≠ '#') with
    | '#' :: f => some (encode fragmentSet f)
    | _ => none
  let query := match cs.takeWhile (· ≠ '#') with
    | '?' :: q => some (encode (querySet kind.isSpecial) q)
    | _ => none
  (query, fragment)

/-- A character that ends a path. -/
def endsPath (c : Char) : Bool := c = '?' || c = '#'

/-- The URL with the given scheme and authority and the path, query and fragment that a text
    writes. -/
def readBelow (scheme : List Char) (kind : SchemeKind) (authority : Option Authority)
    (cs : List Char) : Url :=
  let tail := readTail kind (cs.dropWhile (!endsPath ·))
  ⟨scheme, authority, readPath kind (cs.takeWhile (!endsPath ·)), tail.1, tail.2⟩

/-- What follows the slashes before an authority. -/
def readAfterSlashes (scheme : List Char) (kind : SchemeKind) (cs : List Char) :
    Except UrlError Url := do
  let below := cs.dropWhile (!endsAuthority kind ·)
  let a ← readAuthority scheme kind (below ≠ []) (cs.takeWhile (!endsAuthority kind ·))
  return readBelow scheme kind (some a) below

/-- A URL with an opaque path. -/
def readOpaque (scheme cs : List Char) : Url :=
  let tail := readTail .other (cs.dropWhile (!endsPath ·))
  ⟨scheme, none, .opaquePath (encode controls (cs.takeWhile (!endsPath ·))), tail.1, tail.2⟩

/-- The authority of the file scheme without a host. -/
def localFile : Authority := ⟨[], [], .absent, none⟩

/-- Whether the first segment of a path is the letter of a drive. -/
def beginsWithDrive (cs : List Char) : Bool :=
  isDriveLetter (((splitSegments .file (cs.dropWhile (isSlash .file))).headD []))

/-- The rest of a URL of the file scheme. -/
def readFile (cs : List Char) : Except UrlError Url := do
  let scheme := "file".toList
  let slashes := cs.takeWhile (isSlash .file)
  if slashes.length < 2 then
    return readBelow scheme .file (some localFile) cs
  else
    let rest := cs.drop 2
    let host := rest.takeWhile (!endsAuthority .file ·)
    let below := rest.dropWhile (!endsAuthority .file ·)
    if isDriveLetter host then return readBelow scheme .file (some localFile) rest
    else if host = [] then return readBelow scheme .file (some localFile) below
    else
      let h ← readSpecialHost host
      if h = .name "localhost".toList ∨ beginsWithDrive (below.takeWhile (!endsPath ·)) then
        return readBelow scheme .file (some localFile) below
      else return readBelow scheme .file (some ⟨[], [], h, none⟩) below

/-- Reads a URL that stands on its own. -/
def parseChars (cs : List Char) : Except UrlError Url :=
  match readScheme? (cleanInput cs) with
  | none => .error .relative
  | some (scheme, rest) =>
    match schemeKind scheme with
    | .file => readFile rest
    | .network => readAfterSlashes scheme .network (rest.dropWhile (isSlash .network))
    | .other =>
      match rest with
      | '/' :: '/' :: cs => readAfterSlashes scheme .other cs
      | '/' :: cs => .ok (readBelow scheme .other none ('/' :: cs))
      | cs => .ok (readOpaque scheme cs)

/-- Reads a URL that stands on its own. -/
def parse (s : String) : Except UrlError Url := parseChars s.toList

end LoadSwarm.Url
