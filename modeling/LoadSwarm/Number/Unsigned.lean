/-
  Reading natural numbers from decimal text.

  * `Unsigned.parse limit s`: an optional `+`, then digits only, at most `limit`.
    The text is read from the left, so of a foreign character and a value beyond
    the limit the one that comes first is the reason given.
-/

namespace LoadSwarm

/-- Why a text is not a natural number within a limit. -/
inductive UnsignedError where
  | empty
  | invalidDigit
  | tooLarge
  deriving DecidableEq, Repr

/-- The wording of the reason. -/
def UnsignedError.message : UnsignedError → String
  | empty => "cannot parse integer from empty string"
  | invalidDigit => "invalid digit found in string"
  | tooLarge => "number too large to fit in target type"

namespace Unsigned

/-- The largest number of 32 bits. -/
def max32 : Nat := Nat.pow 2 32 - 1

/-- The largest number of 64 bits. -/
def max64 : Nat := Nat.pow 2 64 - 1

/-- Reads further digits after the value `n`. -/
def readDigits (limit : Nat) : Nat → List Char → Except UnsignedError Nat
  | n, [] => .ok n
  | n, c :: cs =>
    if c.isDigit then
      let next := 10 * n + (c.toNat - '0'.toNat)
      if limit < next then .error .tooLarge else readDigits limit next cs
    else .error .invalidDigit

/-- Reads a natural number up to `limit` from its whole text. -/
def parse (limit : Nat) (s : String) : Except UnsignedError Nat :=
  match s.toList with
  | [] => .error .empty
  | ['+'] => .error .invalidDigit
  | '+' :: cs => readDigits limit 0 cs
  | cs => readDigits limit 0 cs

end Unsigned

end LoadSwarm
