/-
  Decimal text of floating point numbers, read and written.

  * `Binary64.parse`: reads `[+-] digits [. digits] [e [+-] digits]`, `inf`,
    `infinity` or `nan` in any letter case, and rounds to the nearest number.
  * `Binary64.shortest`: the decimal with the fewest digits that reads back as
    the number, and of those the nearest.
  * `FloatLayout`: the decisions of one written form; `Binary64.render` applies
    them to the shortest decimal.
  * `Binary64.renderFixed`: a fixed number of places, a tie to the even digit.
-/
import LoadSwarm.Number.Binary64

namespace LoadSwarm

/-- The number `coefficient · 10 ^ exponent`. -/
structure Decimal where
  coefficient : Nat
  exponent : Int
  deriving DecidableEq, Repr

/-- The decimal digits of a number, without leading zeros; zero has the digit `0`. -/
def decimalDigits (n : Nat) : List Char := Nat.toDigits 10 n

/-- The number that a list of decimal digits writes. -/
def digitsValue (cs : List Char) : Nat :=
  cs.foldl (fun n c => 10 * n + (c.toNat - '0'.toNat)) 0

namespace Decimal

/-- The position of the point before the first digit of the coefficient: the number is
    below `10 ^ point` and, unless it is zero, at least a tenth of it. -/
def point (d : Decimal) : Int :=
  (decimalDigits d.coefficient).length + d.exponent

/-- Drops up to `fuel` trailing zeros of a coefficient. -/
def dropZeros : Nat → Decimal → Decimal
  | 0, d => d
  | fuel + 1, d =>
    if d.coefficient ≠ 0 ∧ d.coefficient % 10 = 0 then
      dropZeros fuel ⟨d.coefficient / 10, d.exponent + 1⟩
    else d

/-- The same number without trailing zeros in the coefficient. -/
def normalize (d : Decimal) : Decimal :=
  dropZeros (decimalDigits d.coefficient).length d

end Decimal

/-- Why a text is not a floating point number. -/
inductive FloatError where
  | empty
  | invalid
  deriving DecidableEq, Repr

/-- The wording of the reason. -/
def FloatError.message : FloatError → String
  | empty => "cannot parse float from empty string"
  | invalid => "invalid float literal"

namespace Binary64

/-- The number nearest to a decimal.  Decimals from 10³¹⁰ on are infinite and those below
    10⁻³³⁰ are zero without looking at their digits. -/
def ofDecimal (negative : Bool) (d : Decimal) : Binary64 :=
  if d.coefficient = 0 then finite negative Magnitude.zero
  else if d.point > 310 then infinite negative
  else if d.point < -330 then finite negative Magnitude.zero
  else if d.exponent < 0 then ofFraction negative d.coefficient (Nat.pow 10 d.exponent.natAbs)
  else ofFraction negative (d.coefficient * Nat.pow 10 d.exponent.natAbs) 1

/-- Reads the exponent part of a decimal after its digits: nothing, or `e` with a whole
    number. -/
def readExponent : List Char → Option Int
  | [] => some 0
  | c :: rest =>
    if c = 'e' ∨ c = 'E' then
      match rest with
      | '-' :: ds => if ds ≠ [] ∧ ds.all Char.isDigit then some (-(digitsValue ds : Int)) else none
      | '+' :: ds => if ds ≠ [] ∧ ds.all Char.isDigit then some (digitsValue ds) else none
      | ds => if ds ≠ [] ∧ ds.all Char.isDigit then some (digitsValue ds) else none
    else none

/-- Reads an unsigned decimal: digits on at least one side of an optional point, then the
    exponent part. -/
def readDecimal (cs : List Char) : Option Decimal :=
  let whole := cs.takeWhile Char.isDigit
  let tail := cs.dropWhile Char.isDigit
  let places := match tail with
    | '.' :: r => r.takeWhile Char.isDigit
    | _ => []
  let tail := match tail with
    | '.' :: r => r.dropWhile Char.isDigit
    | r => r
  if whole = [] ∧ places = [] then none
  else (readExponent tail).map fun e =>
    ⟨digitsValue (whole ++ places), e - (places.length : Int)⟩

/-- Reads what follows an optional sign. -/
def readUnsigned (negative : Bool) (cs : List Char) : Option Binary64 :=
  match readDecimal cs with
  | some d => some (ofDecimal negative d)
  | none =>
    let word := cs.map Char.toLower
    if word = "nan".toList then some nan
    else if word = "inf".toList ∨ word = "infinity".toList then some (infinite negative)
    else none

/-- Reads a number from its whole text. -/
def parseChars (cs : List Char) : Except FloatError Binary64 :=
  if cs = [] then .error .empty
  else
    let number := match cs with
      | '-' :: r => readUnsigned true r
      | '+' :: r => readUnsigned false r
      | r => readUnsigned false r
    match number with
    | some x => .ok x
    | none => .error .invalid

/-- Reads a number from its whole text. -/
def parse (s : String) : Except FloatError Binary64 := parseChars s.toList

/-- Which of two equally near decimals is the shortest one. -/
inductive Tie where
  | even
  | up
  deriving DecidableEq, Repr

/-- The decimal exponent of the leading digit of a positive magnitude.  The magnitude is
    scaled by 10⁴⁰⁰ first, which makes the smallest one a large whole number. -/
def leadingExponent (m : Magnitude) : Int :=
  (decimalDigits (m.units * Nat.pow 10 400 / Magnitude.one)).length - 401

/-- Of the two decimals of exponent `e` around a magnitude, the one to print if one of them
    reads back as it: the nearer one of those that do. -/
def neighbour (tie : Tie) (m : Magnitude) (e : Int) : Option Decimal :=
  let num := if e < 0 then m.units * Nat.pow 10 e.natAbs else m.units
  let den := if e < 0 then Magnitude.one else Magnitude.one * Nat.pow 10 e.natAbs
  let c := num / den
  let r := 2 * (num % den)
  let lower : Decimal := ⟨c, e⟩
  let upper : Decimal := ⟨c + 1, e⟩
  let reads := fun (d : Decimal) => ofDecimal false d = finite false m
  if reads lower then
    if reads upper then
      if r < den then some lower
      else if den < r then some upper
      else match tie with
        | .up => some upper
        | .even => if c % 2 = 0 then some lower else some upper
    else some lower
  else if reads upper then some upper
  else none

/-- The exact decimal of a magnitude. -/
def exactDecimal (m : Magnitude) : Decimal :=
  ⟨m.units * Nat.pow 5 Magnitude.stepBits, -(Magnitude.stepBits : Int)⟩

/-- Looks for a decimal that reads back, from `digits` digits on and at most `fuel` times. -/
def shortestFrom (tie : Tie) (m : Magnitude) (lead : Int) : Nat → Nat → Decimal
  | 0, _ => exactDecimal m
  | fuel + 1, digits =>
    match neighbour tie m (lead - digits) with
    | some d => d
    | none => shortestFrom tie m lead fuel (digits + 1)

/-- The decimal with the fewest digits that reads back as the magnitude, the nearest one of
    them.  Seventeen digits are always enough. -/
def shortest (tie : Tie) (m : Magnitude) : Decimal :=
  if m.units = 0 then ⟨0, 0⟩
  else (shortestFrom tie m (leadingExponent m) 17 0).normalize

end Binary64

/-- The decisions of a written form of floating point numbers. -/
structure FloatLayout where
  /-- which of two equally near decimals is written -/
  tie : Binary64.Tie
  /-- the positions of the point that are written without an exponent; `none` for all -/
  positional : Option (Int × Int)
  /-- whole numbers without an exponent end in `.0` -/
  wholePoint : Bool
  /-- an exponent above zero has a plus sign -/
  signedExponent : Bool
  infinity : String
  missing : String
  deriving DecidableEq, Repr

namespace FloatLayout

/-- Digits only, whatever the size: `0.0000001`, `1`, `inf`, `NaN`. -/
def plain : FloatLayout := ⟨.up, none, false, false, "inf", "NaN"⟩

/-- A whole number shows its point, and an exponent is used below 10⁻⁴ and from 10¹⁶ on. -/
def pointed : FloatLayout := ⟨.up, some (-3, 16), true, false, "inf", "NaN"⟩

/-- A whole number shows its point, and an exponent is used below 10⁻⁵ and from 10¹⁶ on;
    infinities and missing numbers in the spelling of a YAML scalar. -/
def scalar : FloatLayout := ⟨.even, some (-4, 16), true, false, ".inf", ".nan"⟩

/-- As a JSON number: like a YAML scalar, with a sign before an exponent above zero; what is no
    number is null. -/
def json : FloatLayout := ⟨.even, some (-4, 16), true, true, "null", "null"⟩

/-- The digits of a decimal with the point `k` places after the first digit's front. -/
def positionalText (wholePoint : Bool) (digits : List Char) (k : Int) : List Char :=
  if k ≤ 0 then
    '0' :: '.' :: (List.replicate k.natAbs '0' ++ digits)
  else
    let n := k.natAbs
    if digits.length ≤ n then
      digits ++ List.replicate (n - digits.length) '0' ++ (if wholePoint then ['.', '0'] else [])
    else digits.take n ++ '.' :: digits.drop n

/-- A whole number with its sign. -/
def intText (n : Int) : List Char :=
  if n < 0 then '-' :: decimalDigits n.natAbs else decimalDigits n.natAbs

/-- The digits of a decimal as `d.ddd` times a power of ten. -/
def exponentText (signed : Bool) (digits : List Char) (k : Int) : List Char :=
  let exponent := 'e' :: ((if signed ∧ 0 < k - 1 then ['+'] else []) ++ intText (k - 1))
  match digits with
  | [] => []
  | [d] => d :: exponent
  | d :: ds => d :: '.' :: (ds ++ exponent)

/-- The text of a decimal without trailing zeros. -/
def decimalText (layout : FloatLayout) (d : Decimal) : List Char :=
  if d.coefficient = 0 then
    if layout.wholePoint then ['0', '.', '0'] else ['0']
  else
    let digits := decimalDigits d.coefficient
    let k := d.point
    match layout.positional with
    | none => positionalText layout.wholePoint digits k
    | some (lo, hi) =>
      if lo ≤ k ∧ k ≤ hi then positionalText layout.wholePoint digits k
      else exponentText layout.signedExponent digits k

end FloatLayout

namespace Binary64

/-- The text of a number in a layout, as characters. -/
def renderChars (layout : FloatLayout) : Binary64 → List Char
  | nan => layout.missing.toList
  | infinite negative => (if negative then ['-'] else []) ++ layout.infinity.toList
  | finite negative m =>
    (if negative then ['-'] else []) ++ layout.decimalText (shortest layout.tie m)

/-- The text of a number in a layout. -/
def render (layout : FloatLayout) (x : Binary64) : String := String.ofList (x.renderChars layout)

/-- The text of a number in digits only. -/
def plain (x : Binary64) : String := x.render .plain

/-- The digits of a whole number, at least `width` of them. -/
def paddedDigits (width n : Nat) : List Char :=
  let ds := decimalDigits n
  List.replicate (width - ds.length) '0' ++ ds

/-- The text of a number with a fixed number of places, a tie to the even last digit. -/
def renderFixed (places : Nat) : Binary64 → String
  | nan => "NaN"
  | infinite negative => if negative then "-inf" else "inf"
  | finite negative m =>
    let scaled := roundHalfEven (m.units * Nat.pow 10 places) Magnitude.one
    let whole := decimalDigits (scaled / Nat.pow 10 places)
    let fraction := paddedDigits places (scaled % Nat.pow 10 places)
    String.ofList ((if negative then ['-'] else []) ++ whole ++
      (if places = 0 then [] else '.' :: fraction))

end Binary64

end LoadSwarm
