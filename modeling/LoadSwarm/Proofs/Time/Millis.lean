/-
  The milliseconds of durations as floating point numbers.

  * `Duration.millisUnits`: the milliseconds of a duration, in steps.  A longer duration has no fewer
    (`Duration.millisUnits_mono`).
  * `Duration.millisUnits_error`: a whole number of them is hardly off.
  * `Duration.le_millisUnits_of_dvd`, `Duration.le_millisUnits_of_mem`: half seconds are not below
    themselves, nor are multiples of 5 and 50 milliseconds.
-/
import Mathlib
import LoadSwarm.Proofs.Number.Whole
import LoadSwarm.Proofs.Time.Seconds

namespace LoadSwarm

open Magnitude

namespace Duration

open Binary64

variable {d d' : Duration} {n : Nat}

/-- The number of milliseconds of a duration, in steps. -/
def millisUnits (d : Duration) : Nat := nearestUnits (d.units * 1000) 1

theorem millisUnits_mono (h : d ≤ d') : d.millisUnits ≤ d'.millisUnits := by
  have := units_mono h
  exact nearestUnits_mono Nat.one_pos Nat.one_pos (by omega)

theorem millisUnits_le (d : Duration) : d.millisUnits ≤ 2 ^ 74 * one := by
  refine nearestUnits_le Nat.one_pos (short_pow_mul_one 74) ?_
  have := d.units_le
  omega

/-- **The number of milliseconds of a duration** is never infinite. -/
theorem toFloat_mul_eq (d : Duration) :
    ∃ m, d.toFloat * ofNat 1000 = finite false m ∧ m.units = d.millisUnits := by
  obtain ⟨x, hx, hxu⟩ := d.toFloat_eq
  have hlt : nearestUnits (x.units * 1000) 1 < Magnitude.limit := by
    rw [hxu]
    exact d.millisUnits_le.trans_lt (pow_mul_one_lt_limit (by decide))
  obtain ⟨m, hm, hmu⟩ := mul_ofNat_eq (k := 1000) (by norm_num) hlt
  exact ⟨m, by rw [hx, hm], by rw [hmu, hxu]; rfl⟩

/-! ## Whole numbers of milliseconds -/

theorem seconds_of_millis (hd : d.nanos = n * nanosPerMilli) : d.seconds = n / 1000 := by
  unfold seconds nanosPerSecond
  unfold nanosPerMilli at hd
  omega

theorem subsecond_of_millis (hd : d.nanos = n * nanosPerMilli) : d.subsecond = n % 1000 * nanosPerMilli := by
  unfold subsecond nanosPerSecond
  unfold nanosPerMilli at *
  omega

/-- **A whole number of milliseconds is hardly off**, after three roundings. -/
theorem millisUnits_error (hn : n < 2 ^ 40) (hd : d.nanos = n * nanosPerMilli) :
    n * one ≤ d.millisUnits + fraction 12 ∧ d.millisUnits ≤ n * one + fraction 12 := by
  have hseconds : d.seconds < 2 ^ 31 := by rw [seconds_of_millis hd]; omega
  obtain ⟨hlow, hhigh⟩ := units_error hseconds (by decide)
  have hnanos : d.nanos * one = 1000000 * (n * one) := by
    rw [hd]
    unfold nanosPerMilli
    ring
  -- the errors of the roundings before, against that of the product
  have h12 : fraction 12 = 2 ^ 10 * fraction (53 - 31) := fraction_eq (by decide)
  have h22 : fraction (53 - 31) = 2 ^ 31 * fraction 53 := fraction_eq (by decide)
  have hone : one = 2 ^ 12 * fraction 12 := one_eq_fraction (by decide)
  have hlt : n * one < 2 ^ 40 * one := Nat.mul_lt_mul_of_pos_right hn Magnitude.one_pos
  rw [hnanos] at hlow hhigh
  unfold nanosPerSecond at hlow hhigh
  have hprod := nearestUnits_error _ Nat.one_pos (gap_le_fraction (k := 41) (d.units * 1000)
    Nat.one_pos (by decide) (by omega))
  change _ ≤ 2 * (d.millisUnits * 1) + _ ∧ 2 * (d.millisUnits * 1) ≤ _ at hprod
  rw [show 53 - 41 = 12 from rfl] at hprod
  omega

/-- Half seconds are not off at all. -/
theorem le_millisUnits_of_dvd (hn : n < 2 ^ 40) (hd : d.nanos = n * nanosPerMilli) (h : 500 ∣ n) :
    n * one ≤ d.millisUnits := by
  obtain ⟨j, rfl⟩ := h
  have hone : one = 2 * fraction 1 := one_eq_fraction (k := 1) (by decide)
  have hwhole : d.wholeUnits = 2 * (j / 2) * fraction 1 := by
    have hseconds : d.seconds = j / 2 := by rw [seconds_of_millis hd]; omega
    rw [wholeUnits_of_lt (by omega), hseconds, hone]
    ring
  have hpart : j % 2 * fraction 1 ≤ d.partUnits := by
    have hsubsecond : d.subsecond = j % 2 * 500000000 := by
      rw [subsecond_of_millis hd]
      unfold nanosPerMilli
      omega
    refine le_nearestUnits nanosPerSecond_pos (short_mul_fraction (by omega) 1) (Nat.le_of_eq ?_)
    rw [hsubsecond, hone]
    unfold nanosPerSecond
    ring
  have hsum : j * fraction 1 ≤ d.units := by
    refine le_nearestUnits Nat.one_pos (short_mul_fraction (by omega) 1) ?_
    calc j * fraction 1 * 1 = 2 * (j / 2) * fraction 1 + j % 2 * fraction 1 := by
          rw [← Nat.add_mul, Nat.div_add_mod, Nat.mul_one]
      _ ≤ d.wholeUnits + d.partUnits := by rw [hwhole]; exact Nat.add_le_add_left hpart _
  refine le_nearestUnits Nat.one_pos (short_mul_one (by omega)) ?_
  calc 500 * j * one * 1 = j * fraction 1 * 1000 := by rw [hone]; ring
    _ ≤ d.units * 1000 := Nat.mul_le_mul_right 1000 hsum

/-- The milliseconds of `n` of them as a number with 64 binary places. -/
def binaryMillis (n : Nat) : Nat :=
  nearestUnits (nearestUnits (n / 1000 * 2 ^ 64 + nearestUnits (n % 1000 * 2 ^ 64) 1000) 1 * 1000) 1

/-- That many places are enough to round as with all of them. -/
theorem millisUnits_eq (hn : n < 2 ^ 40) (hd : d.nanos = n * nanosPerMilli) (h : 0 < n % 1000) :
    d.millisUnits = binaryMillis n * fraction 64 := by
  have hone : one = 2 ^ 64 * fraction 64 := one_eq_fraction (by decide)
  have hpart : d.partUnits = nearestUnits (n % 1000 * 2 ^ 64) 1000 * fraction 64 := by
    rw [← nearestUnits_mul_fraction (by norm_num) (by omega)]
    unfold partUnits
    rw [subsecond_of_millis hd, hone]
    refine nearestUnits_congr nanosPerSecond_pos (by norm_num) ?_
    unfold nanosPerSecond nanosPerMilli
    ring
  have hpart_le : 2 ^ 52 ≤ nearestUnits (n % 1000 * 2 ^ 64) 1000 :=
    le_nearestUnits (by norm_num) (short_pow 52) (by omega)
  have hwhole : d.wholeUnits = n / 1000 * 2 ^ 64 * fraction 64 := by
    have hseconds := seconds_of_millis hd
    rw [wholeUnits_of_lt (by omega), hseconds, hone, Nat.mul_assoc]
  have hsum : d.units =
      nearestUnits (n / 1000 * 2 ^ 64 + nearestUnits (n % 1000 * 2 ^ 64) 1000) 1 * fraction 64 := by
    rw [← nearestUnits_mul_fraction Nat.one_pos (by omega)]
    unfold units
    rw [hwhole, hpart, Nat.add_mul]
  have hsum_le : 2 ^ 52 ≤
      nearestUnits (n / 1000 * 2 ^ 64 + nearestUnits (n % 1000 * 2 ^ 64) 1000) 1 :=
    le_nearestUnits Nat.one_pos (short_pow 52) (by omega)
  unfold millisUnits binaryMillis
  rw [← nearestUnits_mul_fraction Nat.one_pos (by omega), hsum, Nat.mul_right_comm]

/-- Multiples of 5 from 100 on and of 50 from 1000 on are checked one by one, up to ten seconds: no
    general reason keeps the roundings from ending below them. -/
theorem le_binaryMillis : ∀ j ∈ List.range 180, ∀ half ∈ [5, 50],
    (j + 20) * half * 2 ^ 64 ≤ binaryMillis ((j + 20) * half) := by
  decide +kernel

/-- **These multiples are not below themselves.** -/
theorem le_millisUnits_of_mem {j half : Nat} (hd : d.nanos = j * half * nanosPerMilli)
    (hj : 20 ≤ j ∧ j < 200) (hhalf : half ∈ [5, 50]) : j * half * one ≤ d.millisUnits := by
  have hn : j * half < 2 ^ 40 := by
    have hle : half ≤ 50 := by
      simp at hhalf
      omega
    calc j * half ≤ 200 * 50 := Nat.mul_le_mul hj.2.le hle
      _ < 2 ^ 40 := by norm_num
  by_cases h500 : 500 ∣ j * half
  · exact le_millisUnits_of_dvd hn hd h500
  obtain ⟨i, rfl⟩ := Nat.exists_eq_add_of_le' hj.1
  have hone : one = 2 ^ 64 * fraction 64 := one_eq_fraction (by decide)
  rw [millisUnits_eq hn hd (by omega), hone, ← Nat.mul_assoc]
  exact Nat.mul_le_mul_right _ (le_binaryMillis i (List.mem_range.2 (by omega)) half hhalf)

end Duration

end LoadSwarm
