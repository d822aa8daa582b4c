/-
  Binary floating point numbers of 64 bits, as values one can compute with.

  * `Magnitude`: a non-negative multiple of 2⁻¹⁰⁷⁴ with at most 53 significant
    bits and below 2¹⁰²⁴, held as the number of those steps.  Every finite
    number is a sign and a magnitude.
  * `Binary64`: a finite number, one of the two infinities, or not a number.
  * Arithmetic is exact first and rounded once, to the nearest magnitude with
    ties to the even one (`Magnitude.nearest?`).
  * The order is the one of the numbers: the two zeros are equal, and nothing
    is at most, at least or equal to a value that is not a number.
-/

namespace LoadSwarm

/-- The quotient `num / den` rounded to the nearest whole number, a half to the even one. -/
def roundHalfEven (num den : Nat) : Nat :=
  let q := num / den
  let r := 2 * (num % den)
  if r < den ∨ (r = den ∧ q % 2 = 0) then q else q + 1

/-- The quotient `num / den` rounded to the nearest whole number, a half upwards. -/
def roundHalfUp (num den : Nat) : Nat :=
  (2 * num + den) / (2 * den)

namespace Magnitude

/-- The binary exponent of the smallest step: a magnitude counts steps of 2⁻¹⁰⁷⁴. -/
def stepBits : Nat := 1074

/-- The number of steps in one. -/
def one : Nat := Nat.pow 2 stepBits

/-- A count of steps is a magnitude if its bits below the leading 53 are zero and the
    number is below 2¹⁰²⁴. -/
def Fits (units : Nat) : Prop :=
  units.log2 < 2098 ∧ units % Nat.pow 2 (units.log2 - 52) = 0

instance (units : Nat) : Decidable (Fits units) :=
  inferInstanceAs (Decidable (_ ∧ _))

end Magnitude

/-- The absolute value of a finite number. -/
structure Magnitude where
  /-- how many steps of 2⁻¹⁰⁷⁴ -/
  units : Nat
  /-- the steps are a representable number -/
  fits : Magnitude.Fits units
  deriving DecidableEq

namespace Magnitude

/-- The magnitude of `units` steps, if they are one. -/
def ofUnits? (units : Nat) : Option Magnitude :=
  if h : Fits units then some ⟨units, h⟩ else none

/-- No steps at all. -/
def zero : Magnitude := ⟨0, by decide, by decide⟩

/-- The number of steps nearest to `num / den` steps with at most 53 significant bits,
    ties to the even one. -/
def nearestUnits (num den : Nat) : Nat :=
  let spare := Nat.pow 2 ((num / den).log2 - 52)
  roundHalfEven num (den * spare) * spare

/-- The magnitude nearest to `num / den` steps, ties to even; `none` from 2¹⁰²⁴ on. -/
def nearest? (num den : Nat) : Option Magnitude :=
  ofUnits? (nearestUnits num den)

end Magnitude

/-- A floating point number: finite with a sign, infinite with a sign, or none. -/
inductive Binary64 where
  | nan
  | infinite (negative : Bool)
  | finite (negative : Bool) (magnitude : Magnitude)
  deriving DecidableEq

namespace Binary64

/-- The number nearest to `num / den` steps under the given sign; infinite where no
    magnitude is near. -/
def ofSteps (negative : Bool) (num den : Nat) : Binary64 :=
  match Magnitude.nearest? num den with
  | some m => finite negative m
  | none => infinite negative

/-- The number nearest to the fraction `num / den`. -/
def ofFraction (negative : Bool) (num den : Nat) : Binary64 :=
  ofSteps negative (num * Magnitude.one) den

/-- The number nearest to a whole number. -/
def ofNat (n : Nat) : Binary64 := ofFraction false n 1

/-- Positive zero. -/
def zero : Binary64 := finite false Magnitude.zero

instance : Inhabited Binary64 := ⟨zero⟩

/-- Neither infinite nor missing. -/
def isFinite : Binary64 → Bool
  | finite .. => true
  | _ => false

/-- The signed number of steps of a finite number. -/
def signedUnits (negative : Bool) (m : Magnitude) : Int :=
  if negative then -(m.units : Int) else m.units

/-- At most, as numbers. -/
def le : Binary64 → Binary64 → Bool
  | nan, _ => false
  | _, nan => false
  | infinite true, _ => true
  | _, infinite false => true
  | infinite false, _ => false
  | _, infinite true => false
  | finite s a, finite t b => decide (signedUnits s a ≤ signedUnits t b)

/-- Below, as numbers. -/
def lt (x y : Binary64) : Bool := le x y && !le y x

instance : LE Binary64 := ⟨fun x y => le x y = true⟩
instance : LT Binary64 := ⟨fun x y => lt x y = true⟩
instance (x y : Binary64) : Decidable (x ≤ y) := inferInstanceAs (Decidable (le x y = true))
instance (x y : Binary64) : Decidable (x < y) := inferInstanceAs (Decidable (lt x y = true))

/-- A finite number from a signed count of steps; a zero takes the sign `zeroSign`. -/
def ofSignedSteps (zeroSign : Bool) (n : Int) (den : Nat) : Binary64 :=
  if n = 0 then finite zeroSign Magnitude.zero else ofSteps (decide (n < 0)) n.natAbs den

/-- The opposite number. -/
def neg : Binary64 → Binary64
  | nan => nan
  | infinite s => infinite (!s)
  | finite s m => finite (!s) m

/-- The rounded sum.  Two zeros make a negative zero only if both are negative. -/
def add : Binary64 → Binary64 → Binary64
  | nan, _ => nan
  | _, nan => nan
  | infinite s, infinite t => if s = t then infinite s else nan
  | infinite s, finite .. => infinite s
  | finite .., infinite t => infinite t
  | finite s a, finite t b => ofSignedSteps (s && t) (signedUnits s a + signedUnits t b) 1

/-- The rounded difference. -/
def sub (x y : Binary64) : Binary64 := add x (neg y)

/-- The rounded product. -/
def mul : Binary64 → Binary64 → Binary64
  | nan, _ => nan
  | _, nan => nan
  | infinite s, infinite t => infinite (s != t)
  | infinite s, finite t b => if b.units = 0 then nan else infinite (s != t)
  | finite s a, infinite t => if a.units = 0 then nan else infinite (s != t)
  | finite s a, finite t b => ofSteps (s != t) (a.units * b.units) Magnitude.one

/-- The rounded quotient. -/
def div : Binary64 → Binary64 → Binary64
  | nan, _ => nan
  | _, nan => nan
  | infinite _, infinite _ => nan
  | infinite s, finite t _ => infinite (s != t)
  | finite s _, infinite t => finite (s != t) Magnitude.zero
  | finite s a, finite t b =>
    if b.units = 0 then
      if a.units = 0 then nan else infinite (s != t)
    else ofFraction (s != t) a.units b.units

instance : Add Binary64 := ⟨add⟩
instance : Sub Binary64 := ⟨sub⟩
instance : Mul Binary64 := ⟨mul⟩
instance : Div Binary64 := ⟨div⟩
instance : Neg Binary64 := ⟨neg⟩

/-- The least whole number that is not below a finite number. -/
def ceil : Binary64 → Binary64
  | finite true m => finite true
      ((Magnitude.ofUnits? (m.units / Magnitude.one * Magnitude.one)).getD m)
  | finite false m => finite false
      ((Magnitude.ofUnits? ((m.units + Magnitude.one - 1) / Magnitude.one * Magnitude.one)).getD m)
  | x => x

/-- The nearest whole number, a half away from zero. -/
def round : Binary64 → Binary64
  | finite s m => finite s
      ((Magnitude.ofUnits? (roundHalfUp m.units Magnitude.one * Magnitude.one)).getD m)
  | x => x

/-- The larger of two numbers; a missing one gives way. -/
def max (x y : Binary64) : Binary64 :=
  if x = nan then y else if y = nan then x else if x ≤ y then y else x

/-- The whole part as a natural number below `2 ^ bits`: negative numbers and missing ones
    become 0, numbers beyond the range its largest member. -/
def toNatClamped (bits : Nat) : Binary64 → Nat
  | nan => 0
  | infinite true => 0
  | infinite false => Nat.pow 2 bits - 1
  | finite true _ => 0
  | finite false m => min (m.units / Magnitude.one) (Nat.pow 2 bits - 1)

end Binary64

end LoadSwarm
