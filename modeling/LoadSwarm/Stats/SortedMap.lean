/-
  Finite maps in the order of their keys.

  * `SortedMap`: keys with their values, the keys strictly increasing.
  * `SortedMap.alter`: changes the value of a key, or enters one.
  * `SortedMap.count`, `SortedMap.addCount`: maps to numbers, as tallies.
-/

namespace LoadSwarm

/-- Keys with their values, in the order of the keys. -/
structure SortedMap (κ α : Type) where
  toList : List (κ × α) := []
  deriving DecidableEq, Repr

namespace SortedMap

variable {κ α : Type} [LT κ] [DecidableLT κ] [DecidableEq κ]

/-- The map without keys. -/
def empty : SortedMap κ α := {}

/-- Whether there are no keys. -/
def isEmpty (m : SortedMap κ α) : Bool := m.toList.isEmpty

/-- The value of a key. -/
def get? (m : SortedMap κ α) (k : κ) : Option α := (m.toList.find? (·.1 = k)).map (·.2)

/-- The list with the value of a key changed, or entered in its place. -/
def alterList (k : κ) (f : Option α → α) : List (κ × α) → List (κ × α)
  | [] => [(k, f none)]
  | (j, a) :: rest =>
    if k = j then (j, f (some a)) :: rest
    else if k < j then (k, f none) :: (j, a) :: rest
    else (j, a) :: alterList k f rest

/-- The map with the value of a key changed, or entered. -/
def alter (m : SortedMap κ α) (k : κ) (f : Option α → α) : SortedMap κ α := ⟨alterList k f m.toList⟩

/-- The number under a key, zero without one. -/
def count (m : SortedMap κ Nat) (k : κ) : Nat := (m.get? k).getD 0

/-- The tally with a number added under a key. -/
def addCount (m : SortedMap κ Nat) (k : κ) (n : Nat) : SortedMap κ Nat := m.alter k fun v => v.getD 0 + n

/-- The tally with all numbers of another one added. -/
def addAll (m other : SortedMap κ Nat) : SortedMap κ Nat :=
  other.toList.foldl (fun acc kn => acc.addCount kn.1 kn.2) m

end SortedMap

end LoadSwarm
