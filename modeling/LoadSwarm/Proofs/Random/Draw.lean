/-
  Draws from a stream of random words are in range.

  * `WordStream.scaled_lt`, `WordStream.below_lt`: an index of `len` things is below `len`.
  * `WordStream.draw_eq`: the stream answers every question for an index of something.
-/
import Mathlib
import LoadSwarm.Random.IndexSource

namespace LoadSwarm

namespace WordStream

/-- The high part of a product is below its second factor, and by one more if the low part lies
    above `m - len`. -/
theorem mul_div_add_one_lt {x m len : Nat} (hx : x < m) (hlow : m - len < x * len % m) :
    x * len / m + 1 < len := by
  by_contra hge
  have hm : 0 < m := by omega
  -- with the high part at least `len - 1`, there is no room for such a low part
  have hsplit : m * (x * len / m) + x * len % m = x * len := Nat.div_add_mod (x * len) m
  have hhigh : m * (len - 1) ≤ m * (x * len / m) :=
    Nat.mul_le_mul_left m (Nat.sub_le_of_le_add (not_lt.1 hge))
  have hprod : x * len + len ≤ m * len := by
    calc x * len + len = (x + 1) * len := by ring
      _ ≤ m * len := Nat.mul_le_mul_right len hx
  have hlast : m * len ≤ m * (len - 1) + m := by
    rcases len with _ | k
    · simp
    · simp [Nat.mul_succ]
  generalize x * len % m = low at hlow hsplit
  omega

theorem scaled_lt {bits : Nat} {take : WordStream → Nat × WordStream} {len : Nat}
    (hw : ∀ s, (take s).1 < Nat.pow 2 bits) (hl : 0 < len) (s : WordStream) :
    (scaled bits take len s).1 < len := by
  have hx := hw s
  have hhigh : (take s).1 * len / Nat.pow 2 bits < len := by
    rw [Nat.div_lt_iff_lt_mul (by omega), Nat.mul_comm len]
    exact Nat.mul_lt_mul_of_pos_right hx hl
  unfold scaled
  dsimp only
  split_ifs with hlow hcarry
  · exact mul_div_add_one_lt hx hlow
  · exact hhigh
  · exact hhigh

/-- **An index of `len` things is below `len`.** -/
theorem below_lt {len : Nat} (hl : 0 < len) (s : WordStream) : (s.below len).1 < len := by
  unfold below
  split_ifs
  · exact scaled_lt (fun s => s.word.1.toNat_lt) hl s
  · exact scaled_lt (fun s => s.wide.1.toNat_lt) hl s

/-- **A stream answers with an index in range** when it is asked for one of something. -/
theorem draw_eq {len : Nat} (hl : 0 < len) (s : WordStream) :
    ∃ n s', IndexSource.draw len s = (.index n, s') ∧ n < len :=
  ⟨(s.below len).1, (s.below len).2, if_neg hl.ne', below_lt hl s⟩

end WordStream

end LoadSwarm
