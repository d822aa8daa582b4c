/-
  The clock that a run sleeps by.

  * `Clock`: what sleeps and ticks come to, in whole milliseconds.  The program does not
    make its clock; it relies on it.
  * `Clock.KeepsSleep`, `Clock.KeepsTick`: what the program relies on for a sleep and for
    a tick.  A clock need not do so for those that lead too far into the future.
  * `Clock.exact`: the clock that does so for all of them.
-/
import LoadSwarm.Time.Duration

namespace LoadSwarm

/-- What becomes of sleeps and of ticks. -/
structure Clock where
  /-- the milliseconds that a sleep takes -/
  sleep : Duration → Nat
  /-- the milliseconds up to the tick with a number, of ticks some duration apart -/
  tick : Duration → Nat → Nat
  /-- no sleep is longer than it was asked to be, but for the rest of a millisecond -/
  sleep_le : ∀ d, sleep d ≤ d.ceilMillis
  /-- no tick is before one with a smaller number -/
  tick_le : ∀ d m n, m ≤ n → tick d m ≤ tick d n

namespace Clock

/-- **A clock keeps a sleep**: it takes as long as it was asked to, up to the next whole
    millisecond. -/
def KeepsSleep (clock : Clock) (d : Duration) : Prop := clock.sleep d = d.ceilMillis

/-- **A clock keeps a tick**: it comes after as many of the durations between ticks as its number
    says, up to the next whole millisecond. -/
def KeepsTick (clock : Clock) (d : Duration) (n : Nat) : Prop :=
  clock.tick d n = (n * d.nanos + (nanosPerMilli - 1)) / nanosPerMilli

/-- The clock that keeps all sleeps and ticks. -/
def exact : Clock where
  sleep := Duration.ceilMillis
  tick d n := (n * d.nanos + (nanosPerMilli - 1)) / nanosPerMilli
  sleep_le _ := Nat.le_refl _
  tick_le _ _ _ h := Nat.div_le_div_right (Nat.add_le_add_right (Nat.mul_le_mul_right _ h) _)

theorem exact_keepsSleep (d : Duration) : exact.KeepsSleep d := rfl

theorem exact_keepsTick (d : Duration) (n : Nat) : exact.KeepsTick d n := rfl

end Clock

end LoadSwarm
