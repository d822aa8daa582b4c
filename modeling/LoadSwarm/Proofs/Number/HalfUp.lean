/-
  Rounding to whole numbers, a half upwards.

  * `le_roundHalfUp_iff`: a quotient is rounded to a number or beyond exactly if it is at most a half
    below it; so larger quotients are not rounded to less (`roundHalfUp_mono`).
  * `Magnitude.le_roundHalfUp_nearestUnits`, `Magnitude.roundHalfUp_nearestUnits_le`: a quotient that
    is rounded to a magnitude first reaches the same whole number, if it reaches the half below
    that number, or stays clear of the half above it.
  * `NearestMultiple step n b`: `b` is the multiple of a step that is nearest to `n`.
    `Magnitude.roundHalfUp_nearestUnits_eq`: what is hardly off is rounded to the same multiple.
  * `Binary64.round_eq`: the nearest whole number to a number that is not negative, in steps.
-/
import Mathlib
import LoadSwarm.Proofs.Number.Rounding

namespace LoadSwarm

/-! ## Rounded quotients -/

section Quotients

variable {num num' den n : Nat}

/-- **What is at most a half below a number is rounded to it or beyond.** -/
theorem le_roundHalfUp_iff (hd : 0 < den) : n ≤ roundHalfUp num den ↔ 2 * (n * den) ≤ 2 * num + den := by
  unfold roundHalfUp
  rw [Nat.le_div_iff_mul_le (by omega), Nat.mul_left_comm]

theorem roundHalfUp_le_iff (hd : 0 < den) : roundHalfUp num den ≤ n ↔ 2 * num < 2 * (n * den) + den := by
  have h : n + 1 ≤ roundHalfUp num den ↔ 2 * ((n + 1) * den) ≤ 2 * num + den := le_roundHalfUp_iff hd
  rw [Nat.add_mul] at h
  omega

/-- A larger quotient is not rounded to less. -/
theorem roundHalfUp_mono (hd : 0 < den) (h : num ≤ num') : roundHalfUp num den ≤ roundHalfUp num' den := by
  have hbelow : 2 * (roundHalfUp num den * den) ≤ 2 * num + den := (le_roundHalfUp_iff hd).1 le_rfl
  exact (le_roundHalfUp_iff hd).2 (by omega)

/-- A whole quotient stays. -/
theorem roundHalfUp_mul (hd : 0 < den) (n : Nat) : roundHalfUp (n * den) den = n :=
  ((roundHalfUp_le_iff hd).2 (by omega)).antisymm ((le_roundHalfUp_iff hd).2 (by omega))

end Quotients

/-! ## Nearest multiples -/

section Multiples

variable {step n b : Nat}

/-- **The multiple of a step that is nearest to a number**, a half upwards. -/
structure NearestMultiple (step n b : Nat) : Prop where
  multiple : step ∣ b
  below : 2 * b ≤ 2 * n + step
  above : 2 * n < 2 * b + step

theorem nearestMultiple_roundHalfUp (hpos : 0 < step) :
    NearestMultiple step n (roundHalfUp n step * step) :=
  ⟨Nat.dvd_mul_left _ _, (le_roundHalfUp_iff hpos).1 le_rfl, (roundHalfUp_le_iff hpos).1 le_rfl⟩

theorem NearestMultiple.dist_le (h : NearestMultiple step n b) : Nat.dist b n ≤ step / 2 := by
  obtain ⟨-, h1, h2⟩ := h
  unfold Nat.dist
  omega

end Multiples

/-! ## Quotients that are rounded before -/

namespace Magnitude

variable {num den k : Nat}

/-- A quotient that reaches the half below a number is rounded to that number or beyond, also if it
    is rounded to a magnitude first. -/
theorem le_roundHalfUp_nearestUnits (hd : 0 < den) (hk : k < 2 ^ 52)
    (h : 2 * (k * den * one) ≤ 2 * num + den * one) : k ≤ roundHalfUp (nearestUnits num den) one := by
  have hone : one = 2 * fraction 1 := one_eq_fraction (k := 1) (by decide)
  -- the half below the number is a magnitude
  have hhalf : (2 * k - 1) * fraction 1 ≤ nearestUnits num den := by
    refine le_nearestUnits hd (short_mul_fraction (by omega) 1) ?_
    have h1 : k * den * one = 2 * k * fraction 1 * den := by rw [hone]; ring
    have h2 : den * one = 2 * (fraction 1 * den) := by rw [hone]; ring
    rw [Nat.sub_mul, Nat.sub_mul, Nat.one_mul]
    omega
  have hk : k * one = 2 * k * fraction 1 := by rw [hone]; ring
  rw [le_roundHalfUp_iff one_pos]
  rw [Nat.sub_mul, Nat.one_mul] at hhalf
  omega

/-- A quotient clearly below the half above a number is rounded to that number or less, also if it is
    rounded to a magnitude first. -/
theorem roundHalfUp_nearestUnits_le (hd : 0 < den) (hk : k < 2 ^ 40)
    (h : 2 * num + den * fraction 10 ≤ 2 * (k * den * one) + den * one) :
    roundHalfUp (nearestUnits num den) one ≤ k := by
  have hone : one = 2 ^ 11 * fraction 11 := one_eq_fraction (by decide)
  -- a magnitude a little below the half above the number
  have hbelow : nearestUnits num den ≤ ((2 * k + 1) * 2 ^ 10 - 1) * fraction 11 := by
    refine nearestUnits_le hd (short_mul_fraction (by omega) 11) ?_
    have h1 : 2 * (k * den * one) + den * one = 2 * ((2 * k + 1) * 2 ^ 10 * fraction 11 * den) := by
      rw [hone]; ring
    have h2 : den * fraction 10 = 2 * (fraction 11 * den) := by
      rw [fraction_eq (k := 10) (j := 1) (by decide)]; ring
    rw [Nat.sub_mul, Nat.sub_mul, Nat.one_mul]
    omega
  have hk : 2 * (k * one) + one = 2 * ((2 * k + 1) * 2 ^ 10 * fraction 11) := by rw [hone]; ring
  have hpos : 0 < fraction 11 := fraction_pos 11
  have hle : 1 * fraction 11 ≤ (2 * k + 1) * 2 ^ 10 * fraction 11 := Nat.mul_le_mul_right _ (by omega)
  rw [roundHalfUp_le_iff one_pos]
  rw [Nat.sub_mul, Nat.one_mul] at hbelow
  omega

/-- **What is hardly off is rounded to the same multiple**, if a number half a step below it is not
    below itself. -/
theorem roundHalfUp_nearestUnits_eq {step n u : Nat} (hpos : 0 < step) (hstep : step ≤ 1000)
    (hn : n < 2 ^ 40) (hlow : n * one ≤ u + fraction 12) (hhigh : u ≤ n * one + fraction 12)
    (h : NearestMultiple step n (k * step)) (htie : 2 * (k * step) = 2 * n + step → n * one ≤ u) :
    roundHalfUp (nearestUnits u step) one = k := by
  have hone : one = 2 ^ 10 * fraction 10 := one_eq_fraction (by decide)
  have h10 : fraction 10 = 2 ^ 2 * fraction 12 := fraction_eq (by decide)
  have hk : k ≤ n := by
    by_contra hlt
    have hmul : (n + 1) * step ≤ k * step := Nat.mul_le_mul_right step (Nat.not_le.1 hlt)
    have hmul' := Nat.le_mul_of_pos_right n hpos
    have := h.below
    rw [Nat.add_mul] at hmul
    omega
  refine le_antisymm (roundHalfUp_nearestUnits_le hpos (by omega) ?_)
    (le_roundHalfUp_nearestUnits hpos (by omega) ?_)
  · have hslack : step * fraction 10 ≤ 1000 * fraction 10 := Nat.mul_le_mul_right _ hstep
    have habove : 2 * (n * one) + one ≤ 2 * (k * step * one) + step * one := by
      calc 2 * (n * one) + one = (2 * n + 1) * one := by ring
        _ ≤ (2 * (k * step) + step) * one := Nat.mul_le_mul_right one h.above
        _ = 2 * (k * step * one) + step * one := by ring
    omega
  · rcases Nat.lt_or_eq_of_le h.below with hlt | heq
    · have hbelow : 2 * (k * step * one) + one ≤ 2 * (n * one) + step * one := by
        calc 2 * (k * step * one) + one = (2 * (k * step) + 1) * one := by ring
          _ ≤ (2 * n + step) * one := Nat.mul_le_mul_right one hlt
          _ = 2 * (n * one) + step * one := by ring
      omega
    · have hexact := htie heq
      have hbelow : 2 * (k * step * one) = 2 * (n * one) + step * one := by
        calc 2 * (k * step * one) = 2 * (k * step) * one := by ring
          _ = 2 * (n * one) + step * one := by rw [heq]; ring
      omega

end Magnitude

/-! ## Nearest whole numbers -/

namespace Binary64

open Magnitude

theorem fits_roundHalfUp (m : Magnitude) : Fits (roundHalfUp m.units Magnitude.one * Magnitude.one) := by
  rcases Nat.lt_or_ge m.units (2 ^ 53 * Magnitude.one) with hlt | hge
  · have hle : roundHalfUp m.units Magnitude.one ≤ 2 ^ 53 :=
      (roundHalfUp_le_iff Magnitude.one_pos).2 (by omega)
    refine fits_iff.2 ⟨?_, short_mul_one hle⟩
    exact (Nat.mul_le_mul_right _ hle).trans_lt (pow_mul_one_lt_limit (by decide))
  · -- from there on all magnitudes are whole numbers
    have hpos : m.units ≠ 0 := (Nat.mul_pos (by positivity) Magnitude.one_pos).trans_le hge |>.ne'
    have hlog : 53 + stepBits ≤ m.units.log2 := (Nat.le_log2 hpos).2 (by rwa [pow_mul_one rfl] at hge)
    have hdvd : Magnitude.one ∣ m.units := by
      rw [Magnitude.one_eq]
      exact (pow_dvd_pow 2 (by omega)).trans m.short
    obtain ⟨c, hc⟩ := hdvd
    rw [Nat.mul_comm] at hc
    rw [hc, roundHalfUp_mul Magnitude.one_pos, ← hc]
    exact m.fits

/-- **The nearest whole number**, in steps. -/
theorem round_eq (m : Magnitude) : ∃ c, (finite false m).round = finite false c ∧
    c.units = roundHalfUp m.units Magnitude.one * Magnitude.one :=
  ⟨⟨_, fits_roundHalfUp m⟩, by
    unfold round ofUnits?
    dsimp only
    rw [dif_pos (fits_roundHalfUp m)]
    rfl, rfl⟩

end Binary64

end LoadSwarm
