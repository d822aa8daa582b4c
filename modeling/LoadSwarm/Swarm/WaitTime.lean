/-
  The wait between two iterations of a user.

  * `WaitTime.ofPacing`: numbers of seconds that are no duration become no time.
  * `WaitTime.next`: the next wait; between two different bounds it is drawn with a
    random word of 64 bits.
-/
import LoadSwarm.Config.Basic

namespace LoadSwarm

/-- The wait after each iteration. -/
inductive WaitTime where
  /-- the next iteration starts at once -/
  | none
  | constant (wait : Duration)
  | between (least most : Duration)
  deriving DecidableEq

/-- Why no wait could be drawn. -/
inductive WaitFailure where
  | emptyRange
  | noDuration
  deriving DecidableEq, Repr

/-- The wording of the reason. -/
def WaitFailure.message : WaitFailure → String
  | emptyRange => "cannot sample empty range"
  | noDuration =>
    "cannot convert float seconds to Duration: value is either too big or NaN"

namespace WaitTime

/-- The duration of a number of seconds, no time if there is none. -/
def secondsOrZero (x : Binary64) : Duration := (Duration.ofFloat? x).getD Duration.zero

/-- The wait that a pacing asks for. -/
def ofPacing : Pacing → WaitTime
  | .none => none
  | .constant s => constant (secondsOrZero s)
  | .between least most => between (secondsOrZero least) (secondsOrZero most)

/-- A number from zero to below one in steps of 2⁻⁵², by the upper bits of a word. -/
def unitFraction (word : UInt64) : Binary64 :=
  Binary64.ofFraction false (word.toNat / Nat.pow 2 12) (Nat.pow 2 52)

/-- The number of seconds that a word draws between two bounds. -/
def drawSeconds (low high : Binary64) (word : UInt64) : Binary64 :=
  unitFraction word * (high - low) + low

/-- The next wait.  Bounds in the wrong order make the first one the wait. -/
def next (w : WaitTime) (word : UInt64) : Except WaitFailure (Option Duration) :=
  match w with
  | none => .ok .none
  | constant wait => .ok (some wait)
  | between least most =>
    if most ≤ least then .ok (some least)
    else
      let low := least.toFloat
      let high := most.toFloat
      if low ≤ high then
        match Duration.ofFloat? (drawSeconds low high word) with
        | some d => .ok (some d)
        | .none => .error .noDuration
      else .error .emptyRange

/-- The text of a wait. -/
def text : WaitTime → String
  | none => "None"
  | constant wait => "Constant(" ++ wait.text ++ ")"
  | between least most =>
    "Between \x7b min: " ++ least.text ++ ", max: " ++ most.text ++ " \x7d"

end WaitTime

end LoadSwarm
