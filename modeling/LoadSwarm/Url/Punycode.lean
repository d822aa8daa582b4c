/-
  Labels of host names in ASCII letters, digits and hyphens.

  * `Punycode.encode`: the ASCII characters of a label, a hyphen if there are any,
    and one number for each other character that tells its value and its place.
  * `Punycode.decode`: the label with these numbers put back.
-/

namespace LoadSwarm.Url.Punycode

/-- The letter or digit of a value below 36. -/
def digit (d : Nat) : Char :=
  if d < 26 then Char.ofNat ('a'.toNat + d) else Char.ofNat ('0'.toNat + (d - 26))

/-- The value of a letter or digit. -/
def digitValue? (c : Char) : Option Nat :=
  if 'a' ≤ c && c ≤ 'z' then some (c.toNat - 'a'.toNat)
  else if 'A' ≤ c && c ≤ 'Z' then some (c.toNat - 'A'.toNat)
  else if c.isDigit then some (c.toNat - '0'.toNat + 26)
  else none

/-- Divides by 35 until the value is at most 455; each time counts 36. -/
def shrink : Nat → Nat → Nat → Nat
  | 0, _, k => k
  | fuel + 1, delta, k => if delta > 455 then shrink fuel (delta / 35) (k + 36) else k + 36 * delta / (delta + 38)

/-- The bias for the next number. -/
def adapt (delta points : Nat) (first : Bool) : Nat :=
  let delta := if first then delta / 700 else delta / 2
  shrink 64 (delta + delta / points) 0

/-- The threshold of a digit position. -/
def threshold (bias k : Nat) : Nat :=
  if k ≤ bias + 1 then 1 else if k ≥ bias + 26 then 26 else k - bias

/-- The digits of a number, with variable width. -/
def numberDigits (bias : Nat) : Nat → Nat → Nat → List Char
  | 0, q, _ => [digit q]
  | fuel + 1, q, k =>
    let t := threshold bias k
    if q < t then [digit q]
    else digit (t + (q - t) % (36 - t)) :: numberDigits bias fuel ((q - t) / (36 - t)) (k + 36)

/-- What encoding carries along: the least value to come, the count since, the bias, the
    number of characters handled and whether none was written yet. -/
structure Progress where
  value : Nat
  delta : Nat
  bias : Nat
  handled : Nat
  first : Bool

/-- One pass over the label for the value `m`: counts the smaller characters and writes a
    number for each that has the value. -/
def encodePass (m : Nat) : List Char → Progress → List Char × Progress
  | [], p => ([], p)
  | c :: cs, p =>
    if c.toNat < m then encodePass m cs { p with delta := p.delta + 1 }
    else if c.toNat = m then
      let p' : Progress :=
        { p with delta := 0, bias := adapt p.delta (p.handled + 1) p.first, handled := p.handled + 1, first := false }
      let (rest, q) := encodePass m cs p'
      (numberDigits p.bias 64 p.delta 36 ++ rest, q)
    else encodePass m cs p

/-- The least value of a character from `n` on. -/
def leastFrom (n : Nat) (label : List Char) : Option Nat :=
  ((label.map Char.toNat).filter (n ≤ ·)).min?

/-- The numbers of all characters from the value reached on, one value after the other. -/
def encodeRest (label : List Char) : Nat → Progress → List Char
  | 0, _ => []
  | fuel + 1, p =>
    match leastFrom p.value label with
    | none => []
    | some m =>
      let (out, q) := encodePass m label { p with delta := p.delta + (m - p.value) * (p.handled + 1) }
      out ++ encodeRest label fuel { q with value := m + 1, delta := q.delta + 1 }

/-- The ASCII form of a label, without its mark. -/
def encode (label : List Char) : List Char :=
  let basic := label.filter (·.toNat < 0x80)
  basic ++ (if basic = [] then [] else ['-']) ++
    encodeRest label label.length ⟨0x80, 0, 72, basic.length, true⟩

/-- Reads one number: its value with the rest of the text. -/
def readNumber (bias : Nat) : Nat → Nat → Nat → List Char → Option (Nat × List Char)
  | _, _, _, [] => none
  | acc, w, k, c :: cs => do
    let d ← digitValue? c
    let acc := acc + d * w
    let t := threshold bias k
    if d < t then some (acc, cs) else readNumber bias acc (w * (36 - t)) (k + 36) cs

/-- Puts the numbers of a text back into a label. -/
def decodeRest : Nat → Nat → Nat → Nat → List Char → List Char → Option (List Char)
  | 0, _, _, _, out, _ => some out
  | _, _, _, _, out, [] => some out
  | fuel + 1, n, i, bias, out, cs => do
    let (delta, rest) ← readNumber bias 0 1 36 cs
    let points := out.length + 1
    let total := i + delta
    let n := n + total / points
    let place := total % points
    if n.isValidChar then
      decodeRest fuel n (place + 1) (adapt delta points (i = 0)) (out.insertIdx place (Char.ofNat n)) rest
    else none

/-- The label of an ASCII form without its mark. -/
def decode (cs : List Char) : Option (List Char) :=
  let back := cs.reverse.dropWhile (· ≠ '-')
  let basic := (back.drop 1).reverse
  let rest := if back = [] then cs else (cs.reverse.takeWhile (· ≠ '-')).reverse
  if basic.all (·.toNat < 0x80) then decodeRest cs.length 0x80 0 72 basic rest else none

end LoadSwarm.Url.Punycode
