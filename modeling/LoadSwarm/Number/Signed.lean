/-
  Reading whole numbers from decimal text.

  * `Signed.parse`: an optional sign, then digits only, within 64 bits of two's
    complement.
-/
import LoadSwarm.Number.Unsigned

namespace LoadSwarm

/-- Why a text is not a whole number of 64 bits. -/
inductive SignedError where
  | empty
  | invalidDigit
  | tooLarge
  | tooSmall
  deriving DecidableEq, Repr

/-- The wording of the reason. -/
def SignedError.message : SignedError → String
  | empty => UnsignedError.empty.message
  | invalidDigit => UnsignedError.invalidDigit.message
  | tooLarge => UnsignedError.tooLarge.message
  | tooSmall => "number too small to fit in target type"

namespace Signed

/-- The least number has this size. -/
def leastSize : Nat := Nat.pow 2 63

/-- Reads the digits of a number that is not negative. -/
def readPositive (cs : List Char) : Except SignedError Int :=
  match cs with
  | [] => .error .invalidDigit
  | cs =>
    match Unsigned.readDigits (leastSize - 1) 0 cs with
    | .ok n => .ok n
    | .error .tooLarge => .error .tooLarge
    | .error _ => .error .invalidDigit

/-- Reads the digits of a number behind a minus sign. -/
def readNegative (cs : List Char) : Except SignedError Int :=
  match cs with
  | [] => .error .invalidDigit
  | cs =>
    match Unsigned.readDigits leastSize 0 cs with
    | .ok n => .ok (-(n : Int))
    | .error .tooLarge => .error .tooSmall
    | .error _ => .error .invalidDigit

/-- Reads a whole number of 64 bits from its whole text. -/
def parse (s : String) : Except SignedError Int :=
  match s.toList with
  | [] => .error .empty
  | '+' :: cs => readPositive cs
  | '-' :: cs => readNegative cs
  | cs => readPositive cs

end Signed

end LoadSwarm
