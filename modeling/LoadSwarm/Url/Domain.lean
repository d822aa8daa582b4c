/-
  Names of hosts in their ASCII form.

  * `domainToAscii`: maps the characters of a name, composes them, and writes each
    label that is not ASCII after the mark `xn--`.  A name with a refused
    character, a label that begins with a mark, a misplaced joiner, a label whose
    ASCII form is not canonical, or labels that run both ways has none.
-/
import LoadSwarm.Url.HostMapping
import LoadSwarm.Url.Percent
import LoadSwarm.Url.Punycode
import LoadSwarm.Text.Blank
import LoadSwarm.Text.Composition
import LoadSwarm.Text.Joining

namespace LoadSwarm.Url

/-- The ASCII characters that no host name of a special URL holds. -/
def forbiddenInDomain (c : Char) : Bool :=
  controls c || c = ' ' || c = '#' || c = '%' || c = '/' || c = ':' || c = '<' || c = '>' ||
    c = '?' || c = '@' || c = '[' || c = '\\' || c = ']' || c = '^' || c = '|'

/-- The mapped characters of a name; none if one of them is refused. -/
def mapHost : List Char → Option (List Char)
  | [] => some []
  | c :: cs => do
    let rest ← mapHost cs
    match hostChar c with
    | .kept => some (c :: rest)
    | .ignored => some rest
    | .mapped image => some (image ++ rest)
    | .refused => none

/-- Whether the nearest letter that is not seen through reaches over. -/
def reaches (side : Text.Joining → Bool) (cs : List Char) : Bool :=
  match cs.find? fun c => Text.Joining.ofChar c ≠ .transparent with
  | some c => side (Text.Joining.ofChar c)
  | none => false

/-- Whether a character may stand between those before it, the nearest one first, and those
    after it.  Joiners stand after a mark that suppresses a vowel; the one that parts letters
    may also stand where they would be joined. -/
def fitsBetween (before : List Char) (c : Char) (after : List Char) : Bool :=
  let afterMark := before.head?.any fun b => Text.combiningClass b = 9
  if c.toNat = 0x200D then afterMark
  else if c.toNat = 0x200C then
    afterMark || (reaches Text.Joining.reachesNext before && reaches Text.Joining.reachesBack after)
  else true

/-- Whether all joiners after some characters, the nearest one first, are in their places. -/
def joinersPlaced : List Char → List Char → Bool
  | _, [] => true
  | before, c :: cs => fitsBetween before c cs && joinersPlaced (c :: before) cs

/-- The mark before the ASCII form of a label. -/
def asciiMark : List Char := "xn--".toList

/-- A label beyond ASCII in normal form that is fit for a name. -/
def isHostLabel (label : List Char) : Bool :=
  (match label with
    | [] => false
    | c :: _ => !Text.isMark c) &&
  !asciiMark.isPrefixOf label && label.all (fun c => hostChar c = .kept) &&
  Text.normalize label = label && joinersPlaced [] label

/-- Whether no character of a label is beyond ASCII. -/
def isAscii (label : List Char) : Bool := label.all (·.toNat < 0x80)

/-- The readable form of a mapped label. -/
def readableLabel (label : List Char) : Option (List Char) :=
  if label.any forbiddenInDomain then none
  else if asciiMark.isPrefixOf label then
    if isAscii label then
      match Punycode.decode (label.drop 4) with
      | some inner =>
        if !isAscii inner ∧ isHostLabel inner ∧ Punycode.encode inner = label.drop 4 then some inner
        else none
      | none => none
    else none
  else if isAscii label || isHostLabel label then some label
  else none

/-- The ASCII form of a readable label. -/
def asciiLabel (label : List Char) : List Char :=
  if isAscii label then label else asciiMark ++ Punycode.encode label

/-- Whether a character makes it matter which way the labels of a name run. -/
def turns (c : Char) : Bool :=
  match Text.Direction.ofChar c with
  | .rightToLeft | .arabicNumber => true
  | _ => false

/-- Whether a label runs one way: it begins with a letter and ends with a letter or digit of its
    direction, apart from marks. -/
def runsOneWay (label : List Char) : Bool :=
  match label.map Text.Direction.ofChar with
  | [] => true
  | .leftToRight :: rest =>
    match rest.reverse.dropWhile (· = .nonspacing) with
    | [] => true
    | last :: others =>
      (last = .leftToRight || last = .europeanNumber) &&
        others.all fun d => d ≠ .rightToLeft && d ≠ .arabicNumber
  | .rightToLeft :: rest =>
    match rest.reverse.dropWhile (· = .nonspacing) with
    | [] => true
    | last :: others =>
      last ≠ .leftToRight && last ≠ .neutral && others.all (· ≠ .leftToRight) &&
        !(rest.contains .europeanNumber && rest.contains .arabicNumber)
  | _ => false

/-- Labels with points between them. -/
def joinLabels : List (List Char) → List Char
  | [] => []
  | [l] => l
  | l :: ls => l ++ '.' :: joinLabels ls

/-- The ASCII form of a name. -/
def domainToAscii (name : List Char) : Option (List Char) := do
  let mapped ← mapHost name
  let labels ← (Text.splitChars '.' (Text.normalize mapped)).mapM readableLabel
  if labels.any (·.any turns) && !labels.all runsOneWay then none
  else some (joinLabels (labels.map asciiLabel))

end LoadSwarm.Url
