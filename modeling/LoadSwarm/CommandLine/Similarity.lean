/-
  How similar two words are.

  * `similarity`: the mean of three parts: of either word the letters that match,
    and of the matching letters those that stand in the same order.  Letters match
    if they are equal and not too far from each other.
  * `similarTo`: the words of a list that are similar to a given one, the most
    similar one last.
-/
import LoadSwarm.Number.Binary64

namespace LoadSwarm.CommandLine

/-- The first letter equal to `c` at one of the places from `low` to below `high` that is not
    taken yet; letters come with whether they are taken. -/
def takeMatch (c : Char) (low high : Nat) : Nat → List (Char × Bool) → Option (List (Char × Bool))
  | _, [] => none
  | j, (d, taken) :: rest =>
    if high ≤ j then none
    else if low ≤ j ∧ c = d ∧ taken = false then some ((d, true) :: rest)
    else (takeMatch c low high (j + 1) rest).map ((d, taken) :: ·)

/-- The letters of a word that match letters of another one, and that one with its matched
    letters taken. -/
def matchLetters (range : Nat) : Nat → List Char → List (Char × Bool) → List Char × List (Char × Bool)
  | _, [], b => ([], b)
  | i, c :: cs, b =>
    match takeMatch c (i - range) (i + range + 1) 0 b with
    | some b =>
      let (matched, b) := matchLetters range (i + 1) cs b
      (c :: matched, b)
    | none => matchLetters range (i + 1) cs b

/-- At how many places two lists differ. -/
def differences : List Char → List Char → Nat
  | c :: cs, d :: ds => (if c = d then 0 else 1) + differences cs ds
  | _, _ => 0

/-- How similar two words are, from zero to one. -/
def similarity (a b : List Char) : Binary64 :=
  if a = [] ∧ b = [] then Binary64.ofNat 1
  else
    let range := max a.length b.length / 2 - 1
    let (matched, b') := matchLetters range 0 a (b.map (·, false))
    let others := (b'.filter (·.2)).map (·.1)
    let m := Binary64.ofNat matched.length
    let inOrder := Binary64.ofNat (matched.length - differences matched others / 2)
    if matched = [] then Binary64.zero
    else
      (m / Binary64.ofNat a.length + m / Binary64.ofNat b.length + inOrder / m) / Binary64.ofNat 3

/-- Words are similar if they are more similar than this. -/
def similarityBound : Binary64 := Binary64.ofFraction false 7 10

/-- Enters a word behind all that are not more similar. -/
def insertBySimilarity (s : Binary64) (word : String) :
    List (Binary64 × String) → List (Binary64 × String)
  | [] => [(s, word)]
  | (t, other) :: rest =>
    if s.lt t then (s, word) :: (t, other) :: rest
    else (t, other) :: insertBySimilarity s word rest

/-- The words that are similar to a given one, the most similar one last. -/
def similarTo (word : String) (words : List String) : List String :=
  let add (found : List (Binary64 × String)) (w : String) :=
    let s := similarity word.toList w.toList
    if similarityBound.lt s then insertBySimilarity s w found else found
  (words.foldl add []).map (·.2)

end LoadSwarm.CommandLine
