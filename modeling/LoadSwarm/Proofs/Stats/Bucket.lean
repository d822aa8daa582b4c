/-
  The buckets of latencies.

  * `bucketStep`: how far buckets are apart.  `Duration.le_millisUnits`: where buckets begin, a whole
    number of milliseconds is not below itself.
  * `latencyBucket_eq`: the bucket of a latency by its milliseconds and the step of the buckets there.
  * `latencyBucket_mono`: a longer latency has no lower bucket.
  * `latencyBucket_nearest`: a whole number of milliseconds has the nearest multiple of the step as its
    bucket, a half upwards.
  * `EntryStats.WalksInOrder`: the walk over the buckets of an entry visits latencies in their order.
  * `latencyBucket_twoDigits`: all of these together.
-/
import Mathlib
import LoadSwarm.Proofs.Number.HalfUp
import LoadSwarm.Proofs.Stats.Percentile
import LoadSwarm.Proofs.Time.Millis

namespace LoadSwarm

open Magnitude

/-! ## Steps -/

/-- How far the buckets around a number of milliseconds are apart. -/
def bucketStep (n : Nat) : Nat :=
  if n < 100 then 1 else if n < 1000 then 10 else if n < 10000 then 100 else 1000

section
variable {m n : Nat}

theorem bucketStep_pos (n : Nat) : 0 < bucketStep n := by
  unfold bucketStep
  split_ifs <;> omega

theorem bucketStep_le (n : Nat) : bucketStep n ≤ 1000 := by
  unfold bucketStep
  split_ifs <;> omega

/-- Between numbers with different steps lies a multiple of both. -/
theorem bucketStep_eq_or (h : m ≤ n) : bucketStep m = bucketStep n ∨
    ∃ k ≤ 10000, m < k ∧ k ≤ n ∧ bucketStep m ∣ k ∧ bucketStep n ∣ k := by
  refine or_iff_not_imp_left.2 fun hne => ⟨10 * bucketStep n, ?_⟩
  unfold bucketStep at *
  split_ifs at * <;> omega

/-- Steps begin at multiples of half a step. -/
theorem bucketStep_pred (h : 100 ≤ n → ¬ bucketStep n / 2 ∣ n) : bucketStep (n - 1) = bucketStep n := by
  unfold bucketStep at *
  split_ifs at * <;> omega

/-- **Where buckets or steps begin, a whole number of milliseconds is not below itself.** -/
theorem Duration.le_millisUnits {d : Duration} (hn : n < 2 ^ 40) (hd : d.nanos = n * nanosPerMilli)
    (h100 : 100 ≤ n) (h : bucketStep n / 2 ∣ n) : n * one ≤ d.millisUnits := by
  rcases Nat.lt_or_ge n 10000 with hlt | hge
  · have hhalf : bucketStep n / 2 ∈ [5, 50] ∧ 20 * (bucketStep n / 2) ≤ n ∧
        n < 200 * (bucketStep n / 2) := by
      unfold bucketStep
      split_ifs <;> simp <;> omega
    generalize bucketStep n / 2 = half at *
    obtain ⟨j, rfl⟩ := h
    obtain ⟨hmem, hlow, hhigh⟩ := hhalf
    rw [Nat.mul_comm half j] at *
    have hpos : 0 < half := by
      simp at hmem
      omega
    exact le_millisUnits_of_mem hd
      ⟨Nat.le_of_mul_le_mul_right hlow hpos, Nat.lt_of_mul_lt_mul_right hhigh⟩ hmem
  · have hstep : bucketStep n = 1000 := by
      unfold bucketStep
      split_ifs <;> omega
    rw [hstep] at h
    exact le_millisUnits_of_dvd hn hd h

/-- A whole number of milliseconds has the step of its number, though it may be a little below. -/
theorem bucketStep_millisUnits {d : Duration} (hn : n < 2 ^ 40) (hd : d.nanos = n * nanosPerMilli) :
    bucketStep (d.millisUnits / one) = bucketStep n := by
  obtain ⟨hlow, hhigh⟩ := Duration.millisUnits_error hn hd
  have hone : one = 2 ^ 12 * fraction 12 := one_eq_fraction (by decide)
  have hpos := fraction_pos 12
  rcases Nat.lt_or_ge d.millisUnits (n * one) with hlt | hge
  · have hn1 : 1 ≤ n := by
      rcases Nat.eq_zero_or_pos n with rfl | h1
      · omega
      · exact h1
    have hsucc : n * one = (n - 1) * one + one := by
      rw [← Nat.succ_mul, Nat.succ_eq_add_one, Nat.sub_add_cancel hn1]
    have hdiv : d.millisUnits / one = n - 1 := by
      refine Nat.div_eq_of_lt_le (by omega) ?_
      rwa [Nat.sub_add_cancel hn1]
    rw [hdiv]
    exact bucketStep_pred fun h100 hdvd =>
      absurd (Duration.le_millisUnits hn hd h100 hdvd) (Nat.not_le.2 hlt)
  · have hdiv : d.millisUnits / one = n := by
      refine Nat.div_eq_of_lt_le hge ?_
      rw [Nat.add_mul]
      omega
    rw [hdiv]

end

/-! ## The bucket of some milliseconds -/

/-- The bucket of a number of milliseconds, given in steps, where the buckets are `step` apart. -/
def bucketOf (step u : Nat) : Nat :=
  min (nearestUnits (roundHalfUp (nearestUnits u step) one * step * one) 1 / one) (2 ^ 64 - 1)

section
open Binary64
variable {step u v n : Nat} {m : Magnitude} {d d' : Duration}

/-- The step is the one of the whole milliseconds. -/
theorem ofNat_bucketStep (m : Magnitude) :
    (if finite false m < ofNat 100 then ofNat 1
      else if finite false m < ofNat 1000 then ofNat 10
      else if finite false m < ofNat 10000 then ofNat 100 else ofNat 1000) =
      ofNat (bucketStep (m.units / one)) := by
  have h100 := lt_ofNat_iff (m := m) (n := 100) (by norm_num)
  have h1000 := lt_ofNat_iff (m := m) (n := 1000) (by norm_num)
  have h10000 := lt_ofNat_iff (m := m) (n := 10000) (by norm_num)
  simp only [h100, h1000, h10000]
  unfold bucketStep
  split_ifs <;> rfl

/-- A number divided by a step, rounded and multiplied again, is cut off at its bucket. -/
theorem toNatClamped_eq_bucketOf (hpos : 0 < step) (hstep : step ≤ 1000) (hm : m.units ≤ 2 ^ 74 * one) :
    ((finite false m / ofNat step).round * ofNat step).toNatClamped 64 = bucketOf step m.units := by
  obtain ⟨q, hq, hqu⟩ := div_ofNat_eq hpos (by omega) m
  have hquot : q.units ≤ 2 ^ 74 * one := by
    rw [hqu]
    exact nearestUnits_le hpos (short_pow_mul_one 74) (hm.trans (Nat.le_mul_of_pos_right _ hpos))
  obtain ⟨r, hr, hru⟩ := round_eq q
  have hround : roundHalfUp q.units one ≤ 2 ^ 74 := by
    rw [roundHalfUp_le_iff Magnitude.one_pos]
    have := Magnitude.one_pos
    omega
  have hprod : nearestUnits (r.units * step) 1 < Magnitude.limit := by
    have hle : nearestUnits (r.units * step) 1 ≤ 2 ^ 84 * one := by
      refine nearestUnits_le Nat.one_pos (short_pow_mul_one 84) ?_
      calc r.units * step = roundHalfUp q.units one * step * one := by rw [hru]; ring
        _ ≤ 2 ^ 74 * 1000 * one := Nat.mul_le_mul_right one (Nat.mul_le_mul hround hstep)
        _ ≤ 2 ^ 84 * one * 1 := by omega
    exact hle.trans_lt (pow_mul_one_lt_limit (by decide))
  obtain ⟨p, hp, hpu⟩ := mul_ofNat_eq (by omega) hprod
  rw [hq, hr, hp, toNatClamped_finite, hpu, hru, hqu, Nat.mul_right_comm]
  rfl

/-- **The bucket of a latency** is that of its milliseconds, with the step of the whole ones. -/
theorem latencyBucket_eq (d : Duration) :
    latencyBucket d = bucketOf (bucketStep (d.millisUnits / one)) d.millisUnits := by
  obtain ⟨m, hm, hmu⟩ := d.toFloat_mul_eq
  have hle : m.units ≤ 2 ^ 74 * one := hmu ▸ d.millisUnits_le
  unfold latencyBucket
  dsimp only
  rw [hm, ofNat_bucketStep, toNatClamped_eq_bucketOf (bucketStep_pos _) (bucketStep_le _) hle, hmu]

/-! ## Order -/

theorem bucketOf_mono (hpos : 0 < step) (h : u ≤ v) : bucketOf step u ≤ bucketOf step v := by
  have hquot : nearestUnits u step ≤ nearestUnits v step := nearestUnits_mono hpos hpos (by gcongr)
  have hround := roundHalfUp_mono Magnitude.one_pos hquot
  have hprod : nearestUnits (roundHalfUp (nearestUnits u step) one * step * one) 1 ≤
      nearestUnits (roundHalfUp (nearestUnits v step) one * step * one) 1 :=
    nearestUnits_mono Nat.one_pos Nat.one_pos (by gcongr)
  exact min_le_min_right _ (Nat.div_le_div_right hprod)

/-- A quotient that is rounded to a whole number gives that multiple of the step. -/
theorem bucketOf_eq (hle : n * step ≤ 2 ^ 53) (h : roundHalfUp (nearestUnits u step) one = n) :
    bucketOf step u = n * step := by
  unfold bucketOf
  rw [h, nearestUnits_of_short Nat.one_pos (short_mul_one hle) (Nat.mul_one _).symm,
    Nat.mul_div_cancel _ Magnitude.one_pos]
  exact Nat.min_eq_left (by omega)

/-- A multiple of the step is its own bucket. -/
theorem bucketOf_mul_one (hpos : 0 < step) (hn : n ≤ 2 ^ 53) (h : step ∣ n) :
    bucketOf step (n * one) = n := by
  obtain ⟨c, rfl⟩ := h
  rw [Nat.mul_comm step c] at *
  have hc : c ≤ 2 ^ 53 := (Nat.le_mul_of_pos_right c hpos).trans hn
  refine bucketOf_eq hn ?_
  rw [nearestUnits_of_short hpos (short_mul_one hc) (Nat.mul_right_comm c step one),
    roundHalfUp_mul Magnitude.one_pos]

/-- **A longer latency has no lower bucket.** -/
theorem latencyBucket_mono (h : d ≤ d') : latencyBucket d ≤ latencyBucket d' := by
  have hmillis := Duration.millisUnits_mono h
  rw [latencyBucket_eq, latencyBucket_eq]
  have hwhole : d.millisUnits / one ≤ d'.millisUnits / one := Nat.div_le_div_right hmillis
  rcases bucketStep_eq_or hwhole with heq | ⟨k, hk, hlt, hle, hdvd, hdvd'⟩
  · rw [heq]
    exact bucketOf_mono (bucketStep_pos _) hmillis
  · -- a multiple of both steps lies between them
    have hbelow : d.millisUnits ≤ k * one := ((Nat.div_lt_iff_lt_mul Magnitude.one_pos).1 hlt).le
    have habove : k * one ≤ d'.millisUnits := (Nat.le_div_iff_mul_le Magnitude.one_pos).1 hle
    calc bucketOf (bucketStep (d.millisUnits / one)) d.millisUnits
        ≤ bucketOf (bucketStep (d.millisUnits / one)) (k * one) := bucketOf_mono (bucketStep_pos _) hbelow
      _ = k := bucketOf_mul_one (bucketStep_pos _) (by omega) hdvd
      _ = bucketOf (bucketStep (d'.millisUnits / one)) (k * one) :=
        (bucketOf_mul_one (bucketStep_pos _) (by omega) hdvd').symm
      _ ≤ bucketOf (bucketStep (d'.millisUnits / one)) d'.millisUnits :=
        bucketOf_mono (bucketStep_pos _) habove

/-! ## Two digits -/

/-- Half a step below a multiple of it is a multiple of that half. -/
theorem half_step_dvd {k : Nat} (h : 2 * (k * bucketStep n) = 2 * n + bucketStep n) :
    100 ≤ n ∧ bucketStep n / 2 ∣ n := by
  unfold bucketStep at *
  split_ifs at * <;> omega

/-- **The bucket of a whole number of milliseconds is the nearest multiple of the step there.** -/
theorem latencyBucket_nearest (hn : n < 2 ^ 40) (hd : d.nanos = n * nanosPerMilli) :
    NearestMultiple (bucketStep n) n (latencyBucket d) := by
  have hpos := bucketStep_pos n
  have hstep := bucketStep_le n
  have hnear : NearestMultiple (bucketStep n) n (roundHalfUp n (bucketStep n) * bucketStep n) :=
    nearestMultiple_roundHalfUp hpos
  obtain ⟨hlow, hhigh⟩ := Duration.millisUnits_error hn hd
  have hround : roundHalfUp (nearestUnits d.millisUnits (bucketStep n)) one =
      roundHalfUp n (bucketStep n) := by
    refine roundHalfUp_nearestUnits_eq hpos hstep hn hlow hhigh hnear fun htie => ?_
    obtain ⟨h100, hdvd⟩ := half_step_dvd htie
    exact Duration.le_millisUnits hn hd h100 hdvd
  have hle : roundHalfUp n (bucketStep n) * bucketStep n ≤ 2 ^ 53 := by
    have := hnear.below
    omega
  rw [latencyBucket_eq, bucketStep_millisUnits hn hd, bucketOf_eq hle hround]
  exact hnear

end

/-! ## The walk over the buckets -/

/-- **The walk over the buckets of an entry visits latencies in their order**: for every rank it ends
    at the bucket of the latency in that place. -/
def EntryStats.WalksInOrder (e : EntryStats) (xs : List Recording) : Prop :=
  ∀ inOrder : List Duration, inOrder.Perm (xs.map (·.latency)) → inOrder.Pairwise (· ≤ ·) →
    ∀ (k : Nat) (hk : k < inOrder.length),
      EntryStats.bucketReaching (k + 1) 0 0 e.latencies.toList = latencyBucket inOrder[k]

theorem EntryStats.Describes.walksInOrder {e : EntryStats} {xs : List Recording} (h : e.Describes xs) :
    e.WalksInOrder xs := by
  intro inOrder hperm hasc k hk
  have hbuckets : (inOrder.map latencyBucket).Perm (xs.map (·.bucket)) := by
    have := hperm.map latencyBucket
    rwa [List.map_map] at this
  have hout : (writtenOut e.latencies.toList).Perm (inOrder.map latencyBucket) :=
    h.latencies.flatMap_perm.trans hbuckets.symm
  have hlen : (writtenOut e.latencies.toList).length = inOrder.length := by
    rw [hout.length_eq, List.length_map]
  have hplace : HasRank (k + 1) (inOrder.map latencyBucket) (latencyBucket inOrder[k]) := by
    have := HasRank.of_ascending (hasc.map latencyBucket fun _ _ hle => latencyBucket_mono hle)
      (k := k) (by rwa [List.length_map])
    rwa [List.getElem_map] at this
  have hwalk : HasRank (k + 1) (inOrder.map latencyBucket)
      (EntryStats.bucketReaching (k + 1) 0 0 e.latencies.toList) :=
    (bucketReaching_hasRank h.latencies.ascending (Nat.zero_lt_succ k) (by omega)).perm hout
  exact (hwalk.le hplace le_rfl).antisymm (hplace.le hwalk le_rfl)

/-- **Buckets keep the order of latencies and two of their digits.**  A longer latency has no lower
    bucket, so every walk over the buckets visits the recorded latencies in their order; and the bucket
    of a whole number of milliseconds is that number below 100, and from there on the nearest multiple
    of 10, 100 or 1000, a half upwards. -/
theorem latencyBucket_twoDigits :
    (∀ a b : Duration, a ≤ b → latencyBucket a ≤ latencyBucket b) ∧
    (∀ (xs : List Recording) (s : RequestStats), recordAll RequestStats.recordOne {} xs = (s, none) →
      (∀ name e, s.entries.get? name = some e → e.WalksInOrder (requestsOf name xs)) ∧
        ∀ total, s.total = .ok total → total.WalksInOrder xs) ∧
    ∀ (n : Nat) (d : Duration), n < 2 ^ 40 → d.nanos = n * nanosPerMilli →
      (n < 100 → latencyBucket d = n) ∧
      (100 ≤ n → NearestMultiple (bucketStep n) n (latencyBucket d)) ∧
      Nat.dist (latencyBucket d) n ≤ bucketStep n / 2 := by
  refine ⟨fun a b => latencyBucket_mono, fun xs s hs => ?_, fun n d hn hd => ?_⟩
  · have hdescribes := RequestStats.recordAll_describes hs
    exact ⟨fun name e he => (hdescribes.of_get? he).walksInOrder,
      fun total ht => (hdescribes.total ht).walksInOrder⟩
  · have hnear := latencyBucket_nearest hn hd
    refine ⟨fun hsmall => ?_, fun _ => hnear, hnear.dist_le⟩
    have hstep : bucketStep n = 1 := if_pos hsmall
    obtain ⟨-, hbelow, habove⟩ := hnear
    omega

/-- Halfway between two buckets a latency goes to the upper one, exact (4050 ms) or not (8050 ms). -/
theorem latencyBucket_twoDigits_halfway :
    let shorter : Duration := ⟨4050 * nanosPerMilli, by decide⟩
    let longer : Duration := ⟨8050 * nanosPerMilli, by decide⟩
    let s := (recordAll RequestStats.recordOne {} sampleRequests).1
    shorter ≤ longer ∧ latencyBucket shorter ≤ latencyBucket longer ∧
    recordAll RequestStats.recordOne {} sampleRequests = (s, none) ∧
    (∃ e, s.entries.get? "/clusters/a" = some e ∧
      e.WalksInOrder (requestsOf "/clusters/a" sampleRequests)) ∧
    (∃ total, s.total = .ok total ∧ total.WalksInOrder sampleRequests ∧
      EntryStats.bucketReaching 2 0 0 total.latencies.toList = 20) ∧
    latencyBucket shorter = 4100 ∧ latencyBucket longer = 8100 := by
  intro shorter longer s
  obtain ⟨hmono, hwalk, hdigits⟩ := latencyBucket_twoDigits
  have hle : shorter ≤ longer := by decide
  have hs : recordAll RequestStats.recordOne {} sampleRequests = (s, none) :=
    Prod.ext rfl (by decide +kernel)
  obtain ⟨hentry, htotal⟩ := hwalk sampleRequests s hs
  obtain ⟨e, he⟩ : ∃ e, s.entries.get? "/clusters/a" = some e :=
    Option.isSome_iff_exists.1 (by decide +kernel)
  obtain ⟨total, ht⟩ : ∃ total, s.total = .ok total :=
    (RequestStats.recordAll_describes hs).exists_total ⟨by decide, by decide, by decide⟩
  have hsecond : EntryStats.bucketReaching 2 0 0 total.latencies.toList = 20 := by
    rw [htotal total ht [⟨10 * nanosPerMilli, by decide⟩, ⟨20 * nanosPerMilli, by decide⟩,
      ⟨30 * nanosPerMilli, by decide⟩] (by decide) (by decide) 1 (by decide)]
    exact (hdigits 20 _ (by norm_num) rfl).1 (by norm_num)
  have hstep : bucketStep 4050 = 100 ∧ bucketStep 8050 = 100 := by decide
  obtain ⟨hdvd, hbelow, habove⟩ := (hdigits 4050 shorter (by norm_num) rfl).2.1 (by norm_num)
  obtain ⟨hdvd', hbelow', habove'⟩ := (hdigits 8050 longer (by norm_num) rfl).2.1 (by norm_num)
  rw [hstep.1] at hdvd
  rw [hstep.2] at hdvd'
  exact ⟨hle, hmono shorter longer hle, hs, ⟨e, he, hentry _ e he⟩,
    ⟨total, ht, htotal total ht, hsecond⟩, by omega, by omega⟩

end LoadSwarm
