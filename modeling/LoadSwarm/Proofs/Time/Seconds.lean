/-
  Durations as floating point numbers of seconds, and back.

  * `Duration.ofFloat?_eq_none_iff`: of the numbers that are not negative, those from 2⁶⁴ on are no
    durations.
  * `Duration.units_mono`: a longer duration is no smaller number; `Duration.units_error`: how far a
    number of seconds is off.
  * `Duration.survives_of_lt`: a duration below 2²³ seconds survives the way to a number and back.
-/
import LoadSwarm.Proofs.Number.Rounding
import LoadSwarm.Time.Duration

namespace LoadSwarm

open Magnitude

/-! ## From numbers to durations -/

namespace Magnitude

variable {a b m : Magnitude} {u e n : Nat}

/-- The nanoseconds of a number of seconds. -/
def nanos (m : Magnitude) : Nat := roundHalfEven (m.units * nanosPerSecond) one

theorem nanos_mono (h : a.units ≤ b.units) : a.nanos ≤ b.nanos :=
  roundHalfEven_mono one_pos one_pos (Nat.mul_le_mul_right _ (Nat.mul_le_mul_right _ h))

/-- **Numbers of seconds below 2⁶⁴ are durations**, and no others are. -/
theorem nanos_lt_limit_iff : m.nanos < Duration.limit ↔ m.units < 2 ^ 64 * one := by
  constructor
  · intro h
    by_contra hge
    refine absurd h (Nat.not_lt.2 (le_roundHalfEven_of_mul_le one_pos ?_))
    calc Duration.limit * one = 2 ^ 64 * one * nanosPerSecond := by
          unfold Duration.limit nanosPerSecond; ring
      _ ≤ m.units * nanosPerSecond := Nat.mul_le_mul_right _ (Nat.not_lt.1 hge)
  · intro h
    have hlimit : 2 ^ 64 * one = 2 ^ (11 + stepBits + 53) := pow_mul_one (by decide)
    have hgap := m.short.add_gap_le (hlimit ▸ h)
    rw [← hlimit, ← pow_mul_one rfl] at hgap
    have hle : m.units * nanosPerSecond ≤ ((2 ^ 64 - 2 ^ 11) * nanosPerSecond) * one := by
      unfold nanosPerSecond
      omega
    calc m.nanos ≤ (2 ^ 64 - 2 ^ 11) * nanosPerSecond := roundHalfEven_le_of_le_mul one_pos hle
      _ < Duration.limit := by decide

end Magnitude

namespace Duration

open Binary64

variable {a b m : Magnitude} {d d' x y : Duration}

theorem ext_nanos (h : x.nanos = y.nanos) : x = y := by
  cases x; cases y; cases h; rfl

theorem le_iff : x ≤ y ↔ x.nanos ≤ y.nanos := Iff.rfl

theorem ofNanos?_eq_some_iff {n : Nat} : ofNanos? n = some d ↔ d.nanos = n := by
  unfold ofNanos?
  constructor
  · intro h
    split_ifs at h
    cases h; rfl
  · rintro rfl
    rw [dif_pos d.below_limit]

theorem ofFloat?_finite (m : Magnitude) : ofFloat? (finite false m) = ofNanos? m.nanos := by
  unfold ofFloat?
  dsimp only
  by_cases h : m.units = 0
  · have hzero : m.nanos = 0 := by
      have := roundHalfEven_mul Magnitude.one_pos 0
      rw [Nat.zero_mul] at this
      unfold Magnitude.nanos
      rw [h, Nat.zero_mul, this]
    rw [if_pos h, hzero]
    rfl
  · rw [if_neg h, if_neg Bool.false_ne_true]
    rfl

theorem ofFloat?_eq_some_iff : ofFloat? (finite false m) = some d ↔ d.nanos = m.nanos := by
  rw [ofFloat?_finite, ofNanos?_eq_some_iff]

theorem ofFloat?_eq_none_iff : ofFloat? (finite false m) = none ↔ 2 ^ 64 * one ≤ m.units := by
  rw [ofFloat?_finite, ← Nat.not_lt, ← nanos_lt_limit_iff]
  unfold ofNanos?
  split_ifs with h <;> simp [h]

/-! ## From durations to numbers -/

/-- The whole seconds of a duration as a magnitude, in steps. -/
def wholeUnits (d : Duration) : Nat := nearestUnits (d.seconds * one) 1

/-- The part of a duration below a second as a magnitude, in steps. -/
def partUnits (d : Duration) : Nat := nearestUnits (d.subsecond * one) nanosPerSecond

theorem nanosPerSecond_pos : 0 < nanosPerSecond := by decide

theorem subsecond_lt (d : Duration) : d.subsecond < nanosPerSecond := Nat.mod_lt _ nanosPerSecond_pos

theorem seconds_lt (d : Duration) : d.seconds < 2 ^ 64 := by
  have := d.below_limit
  unfold seconds nanosPerSecond
  unfold limit at this
  omega

theorem nanos_eq (d : Duration) : d.seconds * nanosPerSecond + d.subsecond = d.nanos :=
  Nat.div_add_mod' d.nanos nanosPerSecond

/-- The part below a second is a number below one. -/
theorem partUnits_lt (d : Duration) : d.partUnits < one := by
  have hone : one = 2 ^ 53 * fraction 53 := one_eq_fraction (by decide)
  have hle : d.partUnits ≤ (2 ^ 53 - 1) * fraction 53 := by
    refine nearestUnits_le nanosPerSecond_pos (short_mul_fraction (by norm_num) 53) ?_
    have hsub : d.subsecond ≤ nanosPerSecond - 1 := Nat.le_sub_one_of_lt d.subsecond_lt
    calc d.subsecond * one ≤ (nanosPerSecond - 1) * (2 ^ 53 * fraction 53) := by
          rw [hone]; exact Nat.mul_le_mul_right _ hsub
      _ = (nanosPerSecond - 1) * 2 ^ 53 * fraction 53 := (Nat.mul_assoc _ _ _).symm
      _ ≤ (2 ^ 53 - 1) * nanosPerSecond * fraction 53 := Nat.mul_le_mul_right _ (by decide)
      _ = (2 ^ 53 - 1) * fraction 53 * nanosPerSecond := Nat.mul_right_comm _ _ _
  have hlt : 2 ^ 53 - 1 < 2 ^ 53 := by decide
  calc d.partUnits ≤ (2 ^ 53 - 1) * fraction 53 := hle
    _ < 2 ^ 53 * fraction 53 := Nat.mul_lt_mul_of_pos_right hlt (fraction_pos 53)
    _ = one := hone.symm

theorem wholeUnits_of_lt (h : d.seconds < 2 ^ 53) : d.wholeUnits = d.seconds * one :=
  nearestUnits_of_short Nat.one_pos (short_mul_one h.le) (Nat.mul_one _).symm

theorem wholeUnits_le (d : Duration) : d.wholeUnits ≤ 2 ^ 64 * one := by
  refine nearestUnits_le Nat.one_pos (short_pow_mul_one _) ?_
  rw [Nat.mul_one]
  exact Nat.mul_le_mul_right _ d.seconds_lt.le

theorem le_wholeUnits (h : 2 ^ 53 ≤ d.seconds) : 2 ^ 53 * one ≤ d.wholeUnits := by
  refine le_nearestUnits Nat.one_pos (short_pow_mul_one _) ?_
  rw [Nat.mul_one]
  exact Nat.mul_le_mul_right _ h

/-- The number of seconds of a duration, in steps. -/
def units (d : Duration) : Nat := nearestUnits (d.wholeUnits + d.partUnits) 1

/-- From 2⁵³ seconds on the part below a second is lost. -/
theorem units_of_le (h : 2 ^ 53 ≤ d.seconds) : d.units = d.wholeUnits := by
  have hlow : 2 ^ (1 + stepBits + 52) ≤ d.wholeUnits := by
    rw [← pow_mul_one (e := 53) (by decide)]
    exact le_wholeUnits h
  have hshort : Short d.wholeUnits := short_nearestUnits Nat.one_pos
  have hpart : 2 * d.partUnits < 2 ^ (1 + stepBits) := by
    rw [← pow_mul_one rfl, pow_one]
    exact Nat.mul_lt_mul_of_pos_left d.partUnits_lt Nat.two_pos
  exact nearestUnits_add hshort hlow hpart

/-- Below 2⁵³ seconds the number is at most the next whole one. -/
theorem units_le_of_lt (h : d.seconds < 2 ^ 53) : d.units ≤ (d.seconds + 1) * one := by
  refine nearestUnits_le Nat.one_pos (short_mul_one h) ?_
  rw [wholeUnits_of_lt h, Nat.mul_one, Nat.add_mul, Nat.one_mul]
  exact Nat.add_le_add_left d.partUnits_lt.le _

theorem units_le (d : Duration) : d.units ≤ 2 ^ 64 * one := by
  rcases Nat.lt_or_ge d.seconds (2 ^ 53) with h | h
  · exact (units_le_of_lt h).trans (Nat.mul_le_mul_right _ (h.trans (by decide)))
  · rw [units_of_le h]
    exact d.wholeUnits_le

/-- **The number of seconds of a duration** is never infinite. -/
theorem toFloat_eq (d : Duration) : ∃ m, d.toFloat = finite false m ∧ m.units = d.units := by
  have hlimit : 2 ^ 64 * one < Magnitude.limit := pow_mul_one_lt_limit (by decide)
  obtain ⟨whole, hw, hwu⟩ := ofNat_eq (n := d.seconds) (d.wholeUnits_le.trans_lt hlimit)
  obtain ⟨sub, hs, hsu⟩ := ofNat_of_lt (d.subsecond_lt.trans (by decide))
  obtain ⟨billion, hb, hbu⟩ := ofNat_of_lt (n := nanosPerSecond) (by decide)
  have hpos : 0 < billion.units := hbu ▸ Nat.mul_pos nanosPerSecond_pos Magnitude.one_pos
  have hpart : nearestUnits (sub.units * one) billion.units = d.partUnits := by
    rw [hsu, hbu]
    exact nearestUnits_congr (Nat.mul_pos nanosPerSecond_pos Magnitude.one_pos) nanosPerSecond_pos (by ring)
  have hone : one ≤ 2 ^ 64 * one := Nat.le_mul_of_pos_left _ (by positivity)
  obtain ⟨part, hp, hpu⟩ := div_eq hpos (hpart ▸ d.partUnits_lt.trans_le hone |>.trans hlimit)
  have hsum : nearestUnits (whole.units + part.units) 1 = d.units := by rw [hwu, hpu, hpart]; rfl
  obtain ⟨m, hm, hmu⟩ := add_eq (hsum ▸ d.units_le.trans_lt hlimit)
  exact ⟨m, by unfold toFloat; rw [hw, hs, hb, hp, hm], hmu.trans hsum⟩

/-- Only close to 2⁶⁴ seconds a duration is rounded up to them. -/
theorem le_seconds_of_units (h : 2 ^ 64 * one ≤ d.units) : 2 ^ 64 - 2 ^ 10 ≤ d.seconds := by
  rcases Nat.lt_or_ge d.seconds (2 ^ 53) with hsmall | hlarge
  · have hle := h.trans (units_le_of_lt hsmall)
    have := Nat.le_of_mul_le_mul_right hle Magnitude.one_pos
    omega
  · rw [units_of_le hlarge] at h
    have hgap : gap (d.seconds * one) 1 ≤ 2 ^ (11 + stepBits) := by
      refine gap_le _ Nat.one_pos ?_
      rw [Nat.mul_one, Nat.add_right_comm, ← pow_mul_one rfl]
      exact Nat.mul_lt_mul_of_pos_right d.seconds_lt Magnitude.one_pos
    have herror := (nearestUnits_error _ Nat.one_pos hgap).2
    change 2 * (d.wholeUnits * 1) ≤ _ at herror
    rw [← pow_mul_one rfl] at herror
    have hle : 2 ^ 64 * one ≤ (d.seconds + 2 ^ 10) * one := by
      rw [Nat.add_mul]
      omega
    have := Nat.le_of_mul_le_mul_right hle Magnitude.one_pos
    omega

/-- **A longer duration is no smaller number of seconds.** -/
theorem units_mono (h : d ≤ d') : d.units ≤ d'.units := by
  have hseconds : d.seconds ≤ d'.seconds := Nat.div_le_div_right h
  have hwhole : d.wholeUnits ≤ d'.wholeUnits :=
    nearestUnits_mono Nat.one_pos Nat.one_pos (by gcongr)
  have hover : d'.wholeUnits ≤ d'.units :=
    le_nearestUnits Nat.one_pos (short_nearestUnits Nat.one_pos) (by omega)
  rcases Nat.lt_or_eq_of_le hseconds with hlt | heq
  · rcases Nat.lt_or_ge d.seconds (2 ^ 53) with hsmall | hlarge
    · -- the next whole number is between them
      calc d.units ≤ (d.seconds + 1) * one := units_le_of_lt hsmall
        _ ≤ d'.wholeUnits := by
          refine le_nearestUnits Nat.one_pos (short_mul_one hsmall) ?_
          rw [Nat.mul_one]
          exact Nat.mul_le_mul_right _ hlt
        _ ≤ d'.units := hover
    · calc d.units = d.wholeUnits := units_of_le hlarge
        _ ≤ d'.wholeUnits := hwhole
        _ ≤ d'.units := hover
  · have hsub : d.subsecond ≤ d'.subsecond := by
      have h1 := d.nanos_eq
      have h2 := d'.nanos_eq
      have h3 : d.nanos ≤ d'.nanos := h
      rw [heq] at h1
      omega
    have hpart : d.partUnits ≤ d'.partUnits :=
      nearestUnits_mono nanosPerSecond_pos nanosPerSecond_pos (by gcongr)
    exact nearestUnits_mono Nat.one_pos Nat.one_pos (by omega)

/-- **The number of seconds of a duration is off by two roundings**, that of the part below a second
    and that of the sum. -/
theorem units_error {s : Nat} (h : d.seconds < 2 ^ s) (hs : s ≤ 53) :
    2 * (d.nanos * one) ≤
        2 * (d.units * nanosPerSecond) + nanosPerSecond * (fraction 53 + fraction (53 - s)) ∧
      2 * (d.units * nanosPerSecond) ≤
        2 * (d.nanos * one) + nanosPerSecond * (fraction 53 + fraction (53 - s)) := by
  have hwhole : d.wholeUnits = d.seconds * one :=
    wholeUnits_of_lt (h.trans_le (Nat.pow_le_pow_right Nat.two_pos hs))
  have hpart := nearestUnits_error _ nanosPerSecond_pos (gap_le_fraction (k := 0) (d.subsecond * one)
    nanosPerSecond_pos (by decide) (by
      rw [pow_zero, Nat.one_mul, Nat.mul_comm]
      exact Nat.mul_lt_mul_of_pos_left d.subsecond_lt Magnitude.one_pos))
  have hsum := nearestUnits_error _ Nat.one_pos (gap_le_fraction (d.wholeUnits + d.partUnits)
    Nat.one_pos hs (by
      have hle : (d.seconds + 1) * one ≤ 2 ^ s * one := Nat.mul_le_mul_right _ h
      have := d.partUnits_lt
      rw [Nat.add_mul] at hle
      omega))
  change _ ≤ 2 * (d.partUnits * _) + _ ∧ 2 * (d.partUnits * _) ≤ _ at hpart
  change _ ≤ 2 * (d.units * 1) + _ ∧ 2 * (d.units * 1) ≤ _ at hsum
  have hnanos : d.nanos * one = d.seconds * one * nanosPerSecond + d.subsecond * one := by
    rw [← d.nanos_eq]; ring
  rw [Nat.sub_zero] at hpart
  rw [hwhole] at hsum
  unfold nanosPerSecond at *
  omega

/-! ## There and back -/

/-- The number of seconds of a duration stands for that duration. -/
def Survives (d : Duration) : Prop := ofFloat? d.toFloat = some d

theorem survives_iff (hm : m.units = d.units) : d.Survives ↔ d.nanos = m.nanos := by
  obtain ⟨m', hfloat, hunits⟩ := d.toFloat_eq
  obtain rfl := Magnitude.ext_units (hunits.trans hm.symm)
  unfold Survives
  rw [hfloat, ofFloat?_eq_some_iff]

/-- **A duration below 2²³ seconds survives** the way to a number of seconds and back: two roundings
    are off by less than half a nanosecond. -/
theorem survives_of_lt (h : d.seconds < 2 ^ 23) : d.Survives := by
  unfold Survives
  obtain ⟨m, hm, hunits⟩ := d.toFloat_eq
  rw [hm, ofFloat?_eq_some_iff]
  obtain ⟨hlow, hhigh⟩ := units_error h (by decide)
  -- everything in steps of 2¹⁰²¹
  have hone : one = 2 ^ 53 * fraction 53 := one_eq_fraction (by decide)
  have hsum : fraction (53 - 23) = 2 ^ 23 * fraction 53 := fraction_eq (by decide)
  have hpos : 0 < fraction 53 := fraction_pos 53
  unfold Magnitude.nanos
  rw [hunits]
  symm
  generalize fraction 53 = step at *
  unfold nanosPerSecond at *
  refine roundHalfEven_eq ?_ ?_ <;> omega

end Duration

end LoadSwarm
