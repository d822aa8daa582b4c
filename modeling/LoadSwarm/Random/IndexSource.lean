/-
  Where the indices of chosen identifiers come from.

  * `IndexSource`: a state that answers "which of so many?" and changes by it.
  * `WordStream` is one: every answer is below the number asked for, by multiplying
    a word with that number; a second word evens out most of the remainder.
  * `Script` is one: fixed answers in turn, over and over.
-/
import LoadSwarm.Random.WordStream

namespace LoadSwarm

/-- The answer of an index source. -/
inductive Draw where
  | index (n : Nat)
  | failed (message : String)
  deriving DecidableEq, Repr

/-- A state that can be asked for the index of one of `len` things. -/
class IndexSource (σ : Type) where
  draw : Nat → σ → Draw × σ

namespace WordStream

/-- One of `len` things by words below `2 ^ bits`: the high part of word times `len`, one more
    if the high part of the next word carries over.  The second word is only taken if the low
    part lies above `2 ^ bits - len`. -/
def scaled (bits : Nat) (take : WordStream → Nat × WordStream) (len : Nat) (s : WordStream) :
    Nat × WordStream :=
  let (x, s) := take s
  let high := x * len / Nat.pow 2 bits
  let low := x * len % Nat.pow 2 bits
  if low > Nat.pow 2 bits - len then
    let (y, s) := take s
    (if low + y * len / Nat.pow 2 bits ≥ Nat.pow 2 bits then high + 1 else high, s)
  else (high, s)

/-- A word as a number. -/
def takeWord (s : WordStream) : Nat × WordStream := (s.word.1.toNat, s.word.2)

/-- Two words as a number. -/
def takeWide (s : WordStream) : Nat × WordStream := (s.wide.1.toNat, s.wide.2)

/-- One of `len` things; one word serves below 2³² things, two from there on. -/
def below (len : Nat) (s : WordStream) : Nat × WordStream :=
  if len < Nat.pow 2 32 then scaled 32 takeWord len s else scaled 64 takeWide len s

end WordStream

/-- There is no index of nothing; asking for one takes no word. -/
instance : IndexSource WordStream where
  draw len s :=
    if len = 0 then (.failed "cannot sample empty range", s)
    else
      let (n, s) := s.below len
      (.index n, s)

/-- Fixed answers in turn, over and over; an entry without an index fails. -/
structure Script where
  entries : List (Option Nat)
  asked : Nat
  deriving DecidableEq, Repr

/-- The message of a failing entry. -/
def Script.failure : String := "index source failed"

instance : IndexSource Script where
  draw _ s :=
    let answer := match s.entries[s.asked % s.entries.length]? with
      | some (some n) => Draw.index n
      | _ => Draw.failed Script.failure
    (answer, { s with asked := s.asked + 1 })

/-- A source of either kind. -/
inductive Source where
  | random (stream : WordStream)
  | scripted (script : Script)

instance : IndexSource Source where
  draw len
    | .random s =>
      let (d, s) := IndexSource.draw len s
      (d, .random s)
    | .scripted s =>
      let (d, s) := IndexSource.draw len s
      (d, .scripted s)

end LoadSwarm
