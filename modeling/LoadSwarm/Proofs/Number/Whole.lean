/-
  Whole numbers among the floating point numbers.

  * `Binary64.eq_ofNat`: below 2⁵³, what has the steps of a whole number is that number.
  * `Binary64.ofNat_le_iff`, `lt_ofNat_iff`, `max_ofNat`, `toNatClamped_ofNat`: whole numbers are
    ordered, compared and cut off as such.
  * `Binary64.ceil_eq`: what lies at most one below a whole number is rounded up to it.
  * `Binary64.div_ofNat_eq`, `mul_ofNat_eq`: quotients and products by whole numbers, in steps.
  * `Binary64.ofNat_div_ofNat`: a part of some things lies between nothing and all of them.
-/
import LoadSwarm.Proofs.Number.Rounding

namespace LoadSwarm

namespace Binary64

open Magnitude

variable {k n : Nat} {m : Magnitude}

/-- What has the steps of a whole number is that number. -/
theorem eq_ofNat (hk : k < 2 ^ 53) (hm : m.units = k * Magnitude.one) :
    finite false m = ofNat k := by
  obtain ⟨m', hm', hunits⟩ := ofNat_of_lt hk
  rw [hm', ext_units (hm.trans hunits.symm)]

theorem ofNat_le_iff (hk : k < 2 ^ 53) (hn : n < 2 ^ 53) : ofNat k ≤ ofNat n ↔ k ≤ n := by
  obtain ⟨a, ha, hunits⟩ := ofNat_of_lt hk
  obtain ⟨b, hb, hunits'⟩ := ofNat_of_lt hn
  rw [ha, hb, le_iff, hunits, hunits']
  exact ⟨fun h => Nat.le_of_mul_le_mul_right h Magnitude.one_pos, fun h => Nat.mul_le_mul_right _ h⟩

/-- Below a whole number is what has a whole part below it. -/
theorem lt_ofNat_iff (hn : n < 2 ^ 53) : finite false m < ofNat n ↔ m.units / Magnitude.one < n := by
  obtain ⟨a, ha, hunits⟩ := ofNat_of_lt hn
  rw [ha, lt_iff, hunits, Nat.div_lt_iff_lt_mul Magnitude.one_pos]

theorem max_ofNat (hk : k < 2 ^ 53) (hn : n < 2 ^ 53) :
    (ofNat k).max (ofNat n) = ofNat (Max.max k n) := by
  have hle := ofNat_le_iff hk hn
  obtain ⟨a, ha, -⟩ := ofNat_of_lt hk
  obtain ⟨b, hb, -⟩ := ofNat_of_lt hn
  unfold Binary64.max
  rw [if_neg (by rw [ha]; nofun), if_neg (by rw [hb]; nofun)]
  split_ifs with h
  · rw [Nat.max_eq_right (hle.1 h)]
  · rw [Nat.max_eq_left (Nat.le_of_not_le fun hkn => h (hle.2 hkn))]

/-- The whole part of a number that is not negative. -/
theorem toNatClamped_finite (bits : Nat) (m : Magnitude) :
    (finite false m).toNatClamped bits = min (m.units / Magnitude.one) (2 ^ bits - 1) := by
  unfold toNatClamped
  dsimp only
  rw [Nat.pow_eq]

theorem toNatClamped_ofNat {bits : Nat} (hk : k < 2 ^ 53) (hbits : k < 2 ^ bits) :
    (ofNat k).toNatClamped bits = k := by
  obtain ⟨a, ha, hunits⟩ := ofNat_of_lt hk
  rw [ha, toNatClamped_finite, hunits, Nat.mul_div_cancel k Magnitude.one_pos]
  exact Nat.min_eq_left (Nat.le_sub_one_of_lt hbits)

/-- **What lies at most one below a whole number is rounded up to it.** -/
theorem ceil_eq (hk : k < 2 ^ 53) (hlow : k * Magnitude.one < m.units + Magnitude.one)
    (hhigh : m.units ≤ k * Magnitude.one) : (finite false m).ceil = ofNat k := by
  have hone := Magnitude.one_pos
  have hup : (m.units + Magnitude.one - 1) / Magnitude.one = k := by
    refine Nat.div_eq_of_lt_le (by omega) ?_
    rw [Nat.add_mul]
    omega
  have hfits : Fits (k * Magnitude.one) := by
    refine fits_iff.2 ⟨?_, short_mul_one hk.le⟩
    exact (Nat.mul_lt_mul_of_pos_right hk hone).trans (pow_mul_one_lt_limit (by decide))
  unfold ceil
  dsimp only
  rw [hup, ofUnits?, dif_pos hfits]
  exact eq_ofNat hk rfl

/-- Numbers of 64 bits have a nearest one, and it is at least one if they are. -/
theorem ofNat_units (hk : k < 2 ^ 64) : ∃ a, ofNat k = finite false a ∧
    a.units = nearestUnits (k * Magnitude.one) 1 ∧ (0 < k → Magnitude.one ≤ a.units) := by
  have hle : nearestUnits (k * Magnitude.one) 1 ≤ 2 ^ 64 * Magnitude.one := by
    refine nearestUnits_le Nat.one_pos (short_pow_mul_one 64) ?_
    rw [Nat.mul_one]
    exact Nat.mul_le_mul_right _ hk.le
  obtain ⟨a, ha, hunits⟩ := ofNat_eq (hle.trans_lt (pow_mul_one_lt_limit (by decide)))
  refine ⟨a, ha, hunits, fun hpos => ?_⟩
  rw [hunits]
  refine le_nearestUnits Nat.one_pos (by simpa using short_pow_mul_one 0) ?_
  rw [Nat.mul_one]
  exact Nat.le_mul_of_pos_left _ hpos

/-- A whole number divides without leaving the range. -/
theorem div_ofNat_eq (hpos : 0 < k) (hk : k < 2 ^ 53) (m : Magnitude) :
    ∃ c, finite false m / ofNat k = finite false c ∧ c.units = nearestUnits m.units k := by
  obtain ⟨b, hb, hbunits⟩ := ofNat_of_lt hk
  have hbpos : 0 < b.units := hbunits ▸ Nat.mul_pos hpos Magnitude.one_pos
  have hquot : nearestUnits (m.units * Magnitude.one) b.units = nearestUnits m.units k := by
    rw [hbunits]
    exact nearestUnits_congr (Nat.mul_pos hpos Magnitude.one_pos) hpos (by ring)
  have hle : nearestUnits m.units k ≤ m.units :=
    nearestUnits_le hpos m.short (Nat.le_mul_of_pos_right _ hpos)
  obtain ⟨c, hc, hcunits⟩ := div_eq hbpos (hquot.trans_lt (hle.trans_lt m.units_lt))
  exact ⟨c, by rw [hb, hc], hcunits.trans hquot⟩

/-- The product with a whole number, if it stays in the range. -/
theorem mul_ofNat_eq (hk : k < 2 ^ 53) (h : nearestUnits (m.units * k) 1 < limit) :
    ∃ c, finite false m * ofNat k = finite false c ∧ c.units = nearestUnits (m.units * k) 1 := by
  obtain ⟨b, hb, hbunits⟩ := ofNat_of_lt hk
  have hprod : nearestUnits (m.units * b.units) Magnitude.one = nearestUnits (m.units * k) 1 := by
    rw [hbunits]
    exact nearestUnits_congr Magnitude.one_pos Nat.one_pos (by ring)
  obtain ⟨c, hc, hcunits⟩ := mul_eq (hprod.trans_lt h)
  exact ⟨c, by rw [hb, hc], hcunits.trans hprod⟩

/-- **A part of some things lies between nothing and all of them.** -/
theorem ofNat_div_ofNat (hkn : k ≤ n) (hpos : 0 < n) (hn : n < 2 ^ 64) :
    zero ≤ ofNat k / ofNat n ∧ ofNat k / ofNat n ≤ ofNat 1 := by
  obtain ⟨a, ha, haunits, -⟩ := ofNat_units (hkn.trans_lt hn)
  obtain ⟨b, hb, hbunits, hone⟩ := ofNat_units hn
  obtain ⟨o, ho, hounits⟩ := ofNat_of_lt (n := 1) (by norm_num)
  have hbpos : 0 < b.units := Magnitude.one_pos.trans_le (hone hpos)
  have hab : a.units ≤ b.units := by
    rw [haunits, hbunits]
    exact nearestUnits_mono Nat.one_pos Nat.one_pos (by gcongr)
  have hle : nearestUnits (a.units * Magnitude.one) b.units ≤ 1 * Magnitude.one := by
    refine nearestUnits_le hbpos (short_mul_one (by norm_num)) ?_
    calc a.units * Magnitude.one ≤ b.units * Magnitude.one := Nat.mul_le_mul_right _ hab
      _ = 1 * Magnitude.one * b.units := by ring
  obtain ⟨c, hc, hcunits⟩ := div_eq hbpos
    (hle.trans_lt (by simpa using pow_mul_one_lt_limit (e := 0) (by decide)))
  rw [ha, hb, hc, ho]
  refine ⟨?_, le_iff.2 (by rw [hcunits, hounits]; exact hle)⟩
  unfold zero
  exact le_iff.2 (Nat.zero_le _)

end Binary64

end LoadSwarm
