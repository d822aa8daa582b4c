/-
  URLs by their parts.

  * `Url`: scheme, authority, path, query and fragment, each in its encoded form.
  * `Path`: segments, or one opaque text that nothing can be resolved against.
  * `Url.text`: the URL as one text.
  * `UrlError`: why a text is no URL.
-/
import LoadSwarm.Url.Address

namespace LoadSwarm

namespace Url

/-- What a URL addresses. -/
inductive Host where
  /-- no host at all, or an empty one -/
  | absent
  /-- a name in its ASCII form, or in a scheme of its own the encoded text -/
  | name (text : List Char)
  | four (bits : Nat)
  | six (groups : List Nat)
  deriving DecidableEq, Repr

/-- The text of a host. -/
def Host.text : Host → List Char
  | absent => []
  | name t => t
  | four n => fourText n
  | six gs => '[' :: (sixText gs ++ [']'])

/-- What stands between `//` and the path. -/
structure Authority where
  username : List Char
  password : List Char
  host : Host
  /-- absent also where the scheme's own port is meant -/
  port : Option Nat
  deriving DecidableEq, Repr

/-- The text of an authority. -/
def Authority.text (a : Authority) : List Char :=
  a.username ++ (if a.password = [] then [] else ':' :: a.password) ++
    (if a.username = [] ∧ a.password = [] then [] else ['@']) ++ a.host.text ++
    (match a.port with
      | none => []
      | some p => ':' :: decimalDigits p)

/-- Where a URL leads below its host. -/
inductive Path where
  | opaquePath (text : List Char)
  | segments (parts : List (List Char))
  deriving DecidableEq, Repr

/-- The text of a path: a slash before every segment. -/
def Path.text : Path → List Char
  | opaquePath t => t
  | segments ps => ps.flatMap ('/' :: ·)

end Url

/-- A URL by its parts. -/
structure Url where
  scheme : List Char
  authority : Option Url.Authority
  path : Url.Path
  query : Option (List Char)
  fragment : Option (List Char)
  deriving DecidableEq, Repr

/-- Why a text is no URL. -/
inductive UrlError where
  | emptyHost
  | badDomain
  | badPort
  | badFour
  | badSix
  | badHostCharacter
  | relative
  deriving DecidableEq, Repr

/-- The wording of the reason. -/
def UrlError.message : UrlError → String
  | emptyHost => "empty host"
  | badDomain => "invalid international domain name"
  | badPort => "invalid port number"
  | badFour => "invalid IPv4 address"
  | badSix => "invalid IPv6 address"
  | badHostCharacter => "invalid domain character"
  | relative => "relative URL without a base"

namespace Url

/-- Nothing can be resolved against a URL with an opaque path. -/
def isOpaque (u : Url) : Bool :=
  match u.path with
  | .opaquePath _ => true
  | .segments _ => false

/-- The path after the authority.  Without an authority a path that begins with two slashes
    is kept apart from one. -/
def pathPart (u : Url) : List Char :=
  match u.authority, u.path with
  | none, .segments ([] :: p :: ps) => '/' :: '.' :: (Path.segments ([] :: p :: ps)).text
  | _, p => p.text

/-- A part after its mark, if it is there. -/
def markedPart (mark : Char) : Option (List Char) → List Char
  | none => []
  | some t => mark :: t

/-- The URL as characters. -/
def chars (u : Url) : List Char :=
  u.scheme ++ ':' ::
    ((match u.authority with
      | none => []
      | some a => '/' :: '/' :: a.text) ++
    u.pathPart ++ markedPart '?' u.query ++ markedPart '#' u.fragment)

/-- The URL as one text. -/
def text (u : Url) : String := String.ofList u.chars

/-- How the authority and path of a scheme are read. -/
inductive SchemeKind where
  | file
  /-- a scheme with hosts of the network -/
  | network
  /-- any other scheme -/
  | other
  deriving DecidableEq, Repr

/-- The kind of a scheme. -/
def schemeKind (scheme : List Char) : SchemeKind :=
  if scheme = "file".toList then .file
  else if scheme ∈ ["http".toList, "https".toList, "ws".toList, "wss".toList, "ftp".toList] then .network
  else .other

/-- Special schemes take a backslash for a slash. -/
def SchemeKind.isSpecial (k : SchemeKind) : Bool := k ≠ .other

/-- The port that a scheme means without one. -/
def defaultPort (scheme : List Char) : Option Nat :=
  if scheme = "http".toList ∨ scheme = "ws".toList then some 80
  else if scheme = "https".toList ∨ scheme = "wss".toList then some 443
  else if scheme = "ftp".toList then some 21
  else none

end Url

end LoadSwarm
