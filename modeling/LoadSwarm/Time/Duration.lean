/-
  Lengths of time in whole nanoseconds, below 2⁶⁴ seconds.

  * `Duration`: the number of nanoseconds with its bound.
  * `Duration.ofFloat?`: the nearest duration to a number of seconds, a tie to the
    even nanosecond; there is none for negative, infinite, missing or too large
    numbers.
  * `Duration.toFloat`: seconds and the part below a second are rounded apart and
    then added, so the result is rounded twice.
  * `Duration.text`: the largest unit of s, ms, µs and ns that is not zero, with
    the decimals that are needed.
-/
import LoadSwarm.Number.Decimal

namespace LoadSwarm

/-- The nanoseconds of a second. -/
def nanosPerSecond : Nat := 1000000000

/-- The nanoseconds of a millisecond. -/
def nanosPerMilli : Nat := 1000000

/-- The first number of nanoseconds that is no duration. -/
def Duration.limit : Nat := 18446744073709551616 * 1000000000

/-- A length of time. -/
structure Duration where
  nanos : Nat
  below_limit : nanos < Duration.limit
  deriving DecidableEq

namespace Duration

instance : LE Duration := ⟨fun a b => a.nanos ≤ b.nanos⟩
instance : LT Duration := ⟨fun a b => a.nanos < b.nanos⟩
instance (a b : Duration) : Decidable (a ≤ b) := inferInstanceAs (Decidable (a.nanos ≤ b.nanos))
instance (a b : Duration) : Decidable (a < b) := inferInstanceAs (Decidable (a.nanos < b.nanos))

/-- No time at all. -/
def zero : Duration := ⟨0, by decide⟩

/-- The longest duration. -/
def longest : Duration := ⟨limit - 1, by decide⟩

instance : Inhabited Duration := ⟨zero⟩

/-- The duration of a number of nanoseconds, if it is one. -/
def ofNanos? (n : Nat) : Option Duration :=
  if h : n < limit then some ⟨n, h⟩ else none

/-- A whole number of seconds. -/
def ofSeconds (s : UInt64) : Duration :=
  ⟨s.toNat * nanosPerSecond, by
    have := s.toNat_lt
    simp only [nanosPerSecond, limit]
    omega⟩

/-- The whole seconds of a duration. -/
def seconds (d : Duration) : Nat := d.nanos / nanosPerSecond

/-- The nanoseconds beyond the whole seconds. -/
def subsecond (d : Duration) : Nat := d.nanos % nanosPerSecond

/-- The duration cut to whole seconds. -/
def truncate (d : Duration) : Duration :=
  ⟨d.seconds * nanosPerSecond,
    Nat.lt_of_le_of_lt (Nat.div_mul_le_self d.nanos nanosPerSecond) d.below_limit⟩

/-- The least number of milliseconds that is not shorter. -/
def ceilMillis (d : Duration) : Nat := (d.nanos + (nanosPerMilli - 1)) / nanosPerMilli

/-- The sum, if it is a duration. -/
def add? (a b : Duration) : Option Duration := ofNanos? (a.nanos + b.nanos)

/-- The shorter one. -/
def min (a b : Duration) : Duration := if a ≤ b then a else b

/-- The longer one. -/
def max (a b : Duration) : Duration := if a ≤ b then b else a

/-- The duration nearest to a number of seconds. -/
def ofFloat? : Binary64 → Option Duration
  | .finite negative m =>
    if m.units = 0 then some zero
    else if negative then none
    else ofNanos? (roundHalfEven (m.units * nanosPerSecond) Magnitude.one)
  | _ => none

/-- The number of seconds of a duration, each part rounded for itself. -/
def toFloat (d : Duration) : Binary64 :=
  Binary64.ofNat d.seconds + Binary64.ofNat d.subsecond / Binary64.ofNat nanosPerSecond

/-- A whole part and a fraction of `width` digits without trailing zeros, before a unit. -/
def unitText (whole fraction width : Nat) (unit : String) : String :=
  let places := (Binary64.paddedDigits width fraction).reverse.dropWhile (· = '0') |>.reverse
  String.ofList (decimalDigits whole ++ (if places = [] then [] else '.' :: places)) ++ unit

/-- The text of a duration in its largest unit. -/
def text (d : Duration) : String :=
  if d.seconds > 0 then unitText d.seconds d.subsecond 9 "s"
  else if d.nanos ≥ 1000000 then unitText (d.nanos / 1000000) (d.nanos % 1000000) 6 "ms"
  else if d.nanos ≥ 1000 then unitText (d.nanos / 1000) (d.nanos % 1000) 3 "µs"
  else unitText d.nanos 0 0 "ns"

end Duration

end LoadSwarm
