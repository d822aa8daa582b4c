/-
  A reproducible stream of random words.

  * `Block.ofKey key n`: block `n` of the ChaCha stream of a key with twelve rounds,
    sixteen words of 32 bits.
  * `WordStream`: a key and the number of words taken; `word` and `wide` take one
    word or two, the low one first.
  * `WordStream.ofSeed`: the stream of a number of 64 bits; eight steps of a
    permuted congruential generator make the key.
-/

namespace LoadSwarm

/-- The sixteen words of a block, as four rows. -/
structure Block where
  words : Vector UInt32 16

namespace Block

/-- A word turned to the left. -/
def rotate (x : UInt32) (n : UInt32) : UInt32 := (x <<< n) ||| (x >>> (32 - n))

/-- Mixes four words of a block. -/
def quarter (b : Vector UInt32 16) (i j k l : Fin 16) : Vector UInt32 16 :=
  let w := b[i]
  let x := b[j]
  let y := b[k]
  let z := b[l]
  let w := w + x
  let z := rotate (z ^^^ w) 16
  let y := y + z
  let x := rotate (x ^^^ y) 12
  let w := w + x
  let z := rotate (z ^^^ w) 8
  let y := y + z
  let x := rotate (x ^^^ y) 7
  (((b.set i w).set j x).set k y).set l z

/-- Mixes the columns and then the diagonals. -/
def doubleRound (b : Vector UInt32 16) : Vector UInt32 16 :=
  let b := quarter b 0 4 8 12
  let b := quarter b 1 5 9 13
  let b := quarter b 2 6 10 14
  let b := quarter b 3 7 11 15
  let b := quarter b 0 5 10 15
  let b := quarter b 1 6 11 12
  let b := quarter b 2 7 8 13
  quarter b 3 4 9 14

/-- The block before mixing: four fixed words, the key, and the block number. -/
def start (key : Vector UInt32 8) (n : UInt64) : Vector UInt32 16 :=
  (#v[0x61707865, 0x3320646e, 0x79622d32, 0x6b206574] : Vector UInt32 4) ++ key ++
    (#v[n.toUInt32, (n >>> 32).toUInt32, 0, 0] : Vector UInt32 4)

/-- Block `n` of the stream of a key. -/
def ofKey (key : Vector UInt32 8) (n : UInt64) : Block :=
  let first := start key n
  let mixed := (List.range 6).foldl (fun b _ => doubleRound b) first
  ⟨Vector.zipWith (· + ·) first mixed⟩

end Block

/-- A stream of random words: its key and how many words were taken. -/
structure WordStream where
  key : Vector UInt32 8
  taken : Nat

namespace WordStream

/-- One step of the generator that makes keys. -/
def keyStep (state : UInt64) : UInt64 := state * 6364136223846793005 + 11634580027462260723

/-- The word that a state of the generator shows. -/
def keyWord (state : UInt64) : UInt32 :=
  let mixed := (((state >>> 18) ^^^ state) >>> 27).toUInt32
  let turn := (state >>> 59).toUInt32
  (mixed >>> turn) ||| (mixed <<< ((32 - turn) % 32))

/-- The state after `n` steps. -/
def keyState (seed : UInt64) : Nat → UInt64
  | 0 => seed
  | n + 1 => keyStep (keyState seed n)

/-- The stream of a seed. -/
def ofSeed (seed : UInt64) : WordStream :=
  ⟨Vector.ofFn fun i : Fin 8 => keyWord (keyState seed (i + 1)), 0⟩

/-- The word at a place of the stream. -/
def wordAt (s : WordStream) (i : Nat) : UInt32 :=
  (Block.ofKey s.key (UInt64.ofNat (i / 16))).words[i % 16]

/-- Takes a word. -/
def word (s : WordStream) : UInt32 × WordStream :=
  (s.wordAt s.taken, { s with taken := s.taken + 1 })

/-- Takes two words as one of 64 bits. -/
def wide (s : WordStream) : UInt64 × WordStream :=
  let (lo, s) := s.word
  let (hi, s) := s.word
  (lo.toUInt64 ||| (hi.toUInt64 <<< 32), s)

end WordStream

end LoadSwarm
