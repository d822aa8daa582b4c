/-
  Numeric host addresses of URLs.

  * `parseFour`: one to four numbers between points, decimal, octal after `0` or
    hexadecimal after `0x`; the last number fills the remaining bytes.
  * `parseSix`: eight groups of hexadecimal digits between colons, one run of
    zero groups left out as `::`, the last two groups also as an address of four
    numbers.
  * `fourText`, `sixText`: the canonical texts.
-/
import LoadSwarm.Url.Percent
import LoadSwarm.Text.Blank
import LoadSwarm.Number.Decimal

namespace LoadSwarm.Url

/-- The value of a list of digits in a base, if all are digits of it and there is one. -/
def baseValue? (base : Nat) (cs : List Char) : Option Nat :=
  if cs = [] then none
  else cs.foldl (fun n c => match n, hexValue? c with
    | some n, some d => if d < base then some (n * base + d) else none
    | _, _ => none) (some 0)

/-- One number of an address: octal after `0`, hexadecimal after `0x`, else decimal; a lone
    marker is zero. -/
def partValue? : List Char → Option Nat
  | [] => none
  | '0' :: 'x' :: cs => if cs = [] then some 0 else baseValue? 16 cs
  | '0' :: 'X' :: cs => if cs = [] then some 0 else baseValue? 16 cs
  | '0' :: c :: cs => baseValue? 8 (c :: cs)
  | cs => baseValue? 10 cs

/-- The last part of a host, not counting an empty one after a final point. -/
def lastPart? (parts : List (List Char)) : Option (List Char) :=
  match parts.reverse with
  | [] :: p :: _ => some p
  | [[]] => none
  | p :: _ => some p
  | [] => none

/-- A host whose last part is a number has to be an address. -/
def endsInNumber (host : List Char) : Bool :=
  match lastPart? (Text.splitChars '.' host) with
  | none => false
  | some p => (p ≠ [] && p.all Char.isDigit) || (partValue? p).isSome

/-- The address with the given leading numbers and the given last one. -/
def combineParts (leading : List Nat) (last : Nat) : Option Nat :=
  if leading.any (· > 255) then none
  else if last < Nat.pow 256 (4 - leading.length) then
    some (leading.zipIdx.foldl (fun n p => n + p.1 * Nat.pow 256 (3 - p.2)) last)
  else none

/-- An address of up to four numbers, as its 32 bits. -/
def parseFour (host : List Char) : Option Nat :=
  let parts := Text.splitChars '.' host
  let parts := if parts.getLast? = some [] then parts.dropLast else parts
  if parts.length > 4 then none
  else
    match (parts.mapM partValue?).map List.reverse with
    | some (last :: front) => combineParts front.reverse last
    | _ => none

/-- The text of an address of four numbers. -/
def fourText (n : Nat) : List Char :=
  decimalDigits (n / 16777216 % 256) ++ '.' :: (decimalDigits (n / 65536 % 256) ++
    '.' :: (decimalDigits (n / 256 % 256) ++ '.' :: decimalDigits (n % 256)))

/-- A decimal number up to 255 without leading zeros. -/
def byteValue? (cs : List Char) : Option Nat :=
  match cs with
  | [] => none
  | '0' :: _ :: _ => none
  | cs => if cs.all Char.isDigit ∧ digitsValue cs ≤ 255 then some (digitsValue cs) else none

/-- Four decimal numbers between points, as two groups of 16 bits. -/
def embeddedFour? (cs : List Char) : Option (List Nat) :=
  match (Text.splitChars '.' cs).mapM byteValue? with
  | some [a, b, c, d] => some [a * 256 + b, c * 256 + d]
  | _ => none

/-- One group of up to four hexadecimal digits. -/
def groupValue? (cs : List Char) : Option Nat :=
  if cs.length ≤ 4 then baseValue? 16 cs else none

/-- Groups between colons; the last one may be an embedded address of four numbers. -/
def groups? : List (List Char) → Option (List Nat)
  | [] => some []
  | [p] => if p.contains '.' then embeddedFour? p else (groupValue? p).map ([·])
  | p :: ps => do
    let g ← groupValue? p
    let gs ← groups? ps
    some (g :: gs)

/-- The two sides of the first `::`, if there is one. -/
def splitGap : List Char → Option (List Char × List Char)
  | ':' :: ':' :: rest => some ([], rest)
  | c :: rest => (splitGap rest).map fun p => (c :: p.1, p.2)
  | [] => none

/-- Groups of a side of the gap; a side may be empty. -/
def sideGroups? (cs : List Char) : Option (List Nat) :=
  if cs = [] then some [] else groups? (Text.splitChars ':' cs)

/-- An address of eight groups. -/
def parseSix (cs : List Char) : Option (List Nat) :=
  match splitGap cs with
  | none => do
    let gs ← groups? (Text.splitChars ':' cs)
    if gs.length = 8 then some gs else none
  | some (left, right) => do
    let ls ← sideGroups? left
    let rs ← sideGroups? right
    -- an embedded address closes the whole address, so none stands before the gap
    if left.contains '.' then none
    else if ls.length + rs.length < 8 then
      some (ls ++ List.replicate (8 - ls.length - rs.length) 0 ++ rs)
    else none

/-- The length of the run of zeros at the front. -/
def zeroRun (gs : List Nat) : Nat := (gs.takeWhile (· = 0)).length

/-- The first longest run of zeros as start and length, looking at the groups from `i` on. -/
def longestRun : Nat → List Nat → Nat × Nat
  | _, [] => (0, 0)
  | i, g :: gs =>
    let here := zeroRun (g :: gs)
    let later := longestRun (i + 1) gs
    if here ≥ later.2 then (i, here) else later

/-- Groups in hexadecimal digits between colons. -/
def groupsText : List Nat → List Char
  | [] => []
  | [g] => Nat.toDigits 16 g
  | g :: gs => Nat.toDigits 16 g ++ ':' :: groupsText gs

/-- The text of an address of eight groups; its longest run of two or more zeros is left
    out. -/
def sixText (gs : List Nat) : List Char :=
  let (start, len) := longestRun 0 gs
  if len < 2 then groupsText gs
  else groupsText (gs.take start) ++ ':' :: ':' :: groupsText (gs.drop (start + len))

end LoadSwarm.Url
