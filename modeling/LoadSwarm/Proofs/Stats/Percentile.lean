/-
  Percentiles of latencies, against their direct definition.

  * `HasRank rank buckets b`: `b` is the least of some buckets that so many of them are not above.
    Higher ranks have higher buckets (`HasRank.le`), in any order of the buckets (`HasRank.perm`);
    in ascending order the bucket of a rank stands in its place (`HasRank.of_ascending`).
  * `bucketReaching_hasRank`: the walk over a tally ends at the bucket of its rank.
  * `rankOf_eq`: a part of a hundred that was not rounded up has the rank of the exact product,
    rounded up.
  * `Percentiles r buckets`: the three percentiles of a report are those of a list of buckets.
  * `snapshot_percentiles`: every report of recorded requests has those of their latencies.
-/
import Mathlib
import LoadSwarm.Proofs.Number.Whole
import LoadSwarm.Proofs.Stats.Requests

namespace LoadSwarm

/-! ## Ranks -/

/-- **A bucket of a rank**: the least of some buckets that so many of them are not above. -/
structure HasRank (rank : Nat) (buckets : List Nat) (b : Nat) : Prop where
  mem : b ∈ buckets
  covers : rank ≤ buckets.countP (· ≤ b)
  least : ∀ b' ∈ buckets, rank ≤ buckets.countP (· ≤ b') → b ≤ b'

namespace HasRank
variable {rank rank' b b' : Nat} {buckets buckets' : List Nat}

theorem perm (h : HasRank rank buckets b) (hp : buckets.Perm buckets') :
    HasRank rank buckets' b := by
  refine ⟨hp.mem_iff.1 h.mem, ?_, fun b' hb' hcovers => ?_⟩
  · rw [← hp.countP_eq]
    exact h.covers
  · rw [← hp.countP_eq] at hcovers
    exact h.least b' (hp.mem_iff.2 hb') hcovers

/-- A higher rank does not have a lower bucket. -/
theorem le (h : HasRank rank buckets b) (h' : HasRank rank' buckets b') (hle : rank ≤ rank') :
    b ≤ b' :=
  h.least b' h'.mem (hle.trans h'.covers)

/-- Of ascending buckets the one of a rank stands in its place. -/
theorem of_ascending {k : Nat} (hasc : buckets.Pairwise (· ≤ ·)) (hk : k < buckets.length) :
    HasRank (k + 1) buckets buckets[k] := by
  have hmono (i j : Nat) (hi : i < buckets.length) (hj : j < buckets.length) (hij : i ≤ j) :
      buckets[i] ≤ buckets[j] :=
    hasc.rel_get_of_le (a := ⟨i, hi⟩) (b := ⟨j, hj⟩) hij
  refine ⟨List.getElem_mem hk, ?_, fun b' _ hcovers => ?_⟩
  · have hfirst : (buckets.take (k + 1)).countP (· ≤ buckets[k]) = k + 1 := by
      rw [List.countP_eq_length.2, List.length_take_of_le hk]
      intro b hb
      obtain ⟨i, hi, rfl⟩ := List.mem_take_iff_getElem.1 hb
      exact decide_eq_true (hmono i k _ hk (by omega))
    calc k + 1 = (buckets.take (k + 1)).countP (· ≤ buckets[k]) := hfirst.symm
      _ ≤ buckets.countP (· ≤ buckets[k]) := (List.take_sublist _ _).countP_le
  · by_contra hlt
    have hrest : (buckets.drop k).countP (· ≤ b') = 0 := by
      rw [List.countP_eq_zero]
      intro b hb
      obtain ⟨i, hi, rfl⟩ := List.mem_drop_iff_getElem.1 hb
      have := hmono k (k + i) hk (by omega) (by omega)
      simp
      omega
    have hcount : buckets.countP (· ≤ b') ≤ k := by
      rw [← List.take_append_drop k buckets, List.countP_append, hrest]
      exact List.countP_le_length.trans (List.length_take_le _ _)
    omega

end HasRank

/-! ## The walk over a tally -/

/-- The entries of a tally written out, every key as often as it was counted. -/
def writtenOut (l : List (Nat × Nat)) : List Nat := l.flatMap fun e => List.replicate e.2 e.1

theorem mem_keys_of_writtenOut {l : List (Nat × Nat)} {b : Nat} (h : b ∈ writtenOut l) :
    b ∈ l.map (·.1) := by
  obtain ⟨e, he, hb⟩ := List.mem_flatMap.1 h
  rw [List.eq_of_mem_replicate hb]
  exact List.mem_map_of_mem he

/-- Nothing that is written out is below or at a bucket that comes before all keys. -/
theorem countP_writtenOut_eq_zero {l : List (Nat × Nat)} {b : Nat} (h : ∀ j ∈ l.map (·.1), b < j) :
    (writtenOut l).countP (· ≤ b) = 0 := by
  rw [List.countP_eq_zero]
  intro j hj
  simpa using h j (mem_keys_of_writtenOut hj)

/-- **The walk ends at the bucket of its rank**, which counts from the requests seen before. -/
theorem bucketReaching_hasRank : ∀ {l : List (Nat × Nat)} {wanted seen last : Nat},
    (l.map (·.1)).Pairwise (· < ·) → seen < wanted → wanted ≤ seen + (writtenOut l).length →
      HasRank (wanted - seen) (writtenOut l) (EntryStats.bucketReaching wanted seen last l)
  | [], wanted, seen, last, _, hseen, hall => by simp [writtenOut] at hall; omega
  | (b, n) :: l, wanted, seen, last, hasc, hseen, hall => by
    obtain ⟨hb, hasc⟩ := List.pairwise_cons.1 hasc
    have hout : writtenOut ((b, n) :: l) = List.replicate n b ++ writtenOut l := rfl
    have hrest := countP_writtenOut_eq_zero hb
    -- up to a bucket from the first one on lie all of the first bucket and some of the others
    have hcount {j : Nat} (hj : b ≤ j) : (writtenOut ((b, n) :: l)).countP (· ≤ j) =
        n + (writtenOut l).countP (· ≤ j) := by
      rw [hout, List.countP_append, List.countP_replicate]
      simp [hj]
    unfold EntryStats.bucketReaching
    split_ifs with hreach
    · refine ⟨?_, ?_, fun j hj _ => ?_⟩
      · rw [hout]
        exact List.mem_append_left _ (List.mem_replicate.2 ⟨by omega, rfl⟩)
      · rw [hcount le_rfl]
        omega
      · rw [hout] at hj
        rcases List.mem_append.1 hj with hj | hj
        · exact (List.eq_of_mem_replicate hj).ge
        · exact (hb j (mem_keys_of_writtenOut hj)).le
    · have hlen : (writtenOut ((b, n) :: l)).length = n + (writtenOut l).length := by
        rw [hout, List.length_append, List.length_replicate]
      have ih : HasRank (wanted - (seen + n)) (writtenOut l)
          (EntryStats.bucketReaching wanted (seen + n) b l) :=
        bucketReaching_hasRank hasc (by omega) (by omega)
      have hlt := hb _ (mem_keys_of_writtenOut ih.mem)
      refine ⟨?_, ?_, fun j hj hcovers => ?_⟩
      · rw [hout]
        exact List.mem_append_right _ ih.mem
      · have := ih.covers
        rw [hcount hlt.le]
        omega
      · rw [hout] at hj
        rcases List.mem_append.1 hj with hj | hj
        · rw [List.eq_of_mem_replicate hj, hcount le_rfl, hrest] at hcovers
          omega
        · have hbj := hb j (mem_keys_of_writtenOut hj)
          rw [hcount hbj.le] at hcovers
          exact ih.least j hj (by omega)

/-! ## The rank of a part -/

/-- The gap between numbers from a half to one, in steps: 2⁵³ of these are one. -/
def grain : Nat := 2 ^ 1021

theorem one_eq_grain : Magnitude.one = 2 ^ 53 * grain := by
  have hbits : 53 + 1021 = Magnitude.stepBits := rfl
  unfold grain
  rw [Magnitude.one_eq_mul hbits]

/-- A part of a hundred that was not rounded up. -/
structure IsPercent (p : Nat) (x : Binary64) : Prop where
  pos : 0 < p
  le : p ≤ 100
  near : ∃ (m : Magnitude) (c : Nat), x = .finite false m ∧ m.units = c * grain ∧
    c * 100 ≤ p * 2 ^ 53 ∧ p * 2 ^ 53 < (c + 1) * 100

section
variable {n p c k : Nat} {x : Binary64} {m : Magnitude}

open Magnitude

/-- The product of a whole number and a part lies below the exact one, by far less than one. -/
theorem product_bounds (hp : 0 < p) (hhigh : c * 100 ≤ p * 2 ^ 53)
    (hlow : p * 2 ^ 53 < (c + 1) * 100) (hpos : 0 < n) (hn : n < 2 ^ 40) :
    (n * p ⌈/⌉ 100 - 1) * 2 ^ 53 + 2 ^ 41 ≤ n * c ∧ n * c ≤ (n * p ⌈/⌉ 100) * 2 ^ 53 := by
  rw [Nat.ceilDiv_eq_add_pred_div]
  generalize hk : (n * p + 100 - 1) / 100 = k
  have hnp : 0 < n * p := Nat.mul_pos hpos hp
  constructor
  · have h1 : ((k - 1) * 100 + 1) * 2 ^ 53 ≤ n * p * 2 ^ 53 := Nat.mul_le_mul_right _ (by omega)
    have h2 : n * (p * 2 ^ 53) ≤ n * ((c + 1) * 100) := Nat.mul_le_mul_left n hlow.le
    have h3 : n * (p * 2 ^ 53) = n * p * 2 ^ 53 := (Nat.mul_assoc _ _ _).symm
    have h4 : n * ((c + 1) * 100) = n * c * 100 + n * 100 := by ring
    omega
  · have h1 : n * p * 2 ^ 53 ≤ k * 100 * 2 ^ 53 := Nat.mul_le_mul_right _ (by omega)
    have h2 : n * (c * 100) ≤ n * (p * 2 ^ 53) := Nat.mul_le_mul_left n hhigh
    have h3 : n * (p * 2 ^ 53) = n * p * 2 ^ 53 := (Nat.mul_assoc _ _ _).symm
    have h4 : n * (c * 100) = n * c * 100 := (Nat.mul_assoc _ _ _).symm
    omega

/-- **A product just above one whole number and not above the next is rounded up to that one**,
    as it is not rounded across either of them before. -/
theorem ceil_mul (hn : n < 2 ^ 40) (hkn : 0 < k ∧ k ≤ n) (hm : m.units = c * grain)
    (hlow : (k - 1) * 2 ^ 53 + 2 ^ 41 ≤ n * c) (hhigh : n * c ≤ k * 2 ^ 53) :
    (Binary64.ofNat n * .finite false m).ceil = Binary64.ofNat k := by
  obtain ⟨a, ha, haunits⟩ := Binary64.ofNat_of_lt (n := n) (by omega)
  have hprod : a.units * m.units = n * c * grain * Magnitude.one := by rw [haunits, hm]; ring
  have hbelow : nearestUnits (a.units * m.units) Magnitude.one ≤ k * Magnitude.one := by
    refine nearestUnits_le Magnitude.one_pos (short_mul_one (by omega)) ?_
    rw [hprod]
    refine Nat.mul_le_mul_right _ ?_
    calc n * c * grain ≤ k * 2 ^ 53 * grain := Nat.mul_le_mul_right _ hhigh
      _ = k * Magnitude.one := by rw [one_eq_grain, Nat.mul_assoc]
  -- a number of few bits between the whole number below and the exact product
  have habove : ((k - 1) * 2 ^ 12 + 1) * 2 ^ 1062 ≤ nearestUnits (a.units * m.units) Magnitude.one := by
    refine le_nearestUnits Magnitude.one_pos (short_mul_pow (by omega) _) ?_
    rw [hprod]
    refine Nat.mul_le_mul_right _ ?_
    calc ((k - 1) * 2 ^ 12 + 1) * 2 ^ 1062 = ((k - 1) * 2 ^ 12 + 1) * (2 ^ 41 * grain) := by
          rw [grain, ← pow_add]
      _ = ((k - 1) * 2 ^ 53 + 2 ^ 41) * grain := by ring
      _ ≤ n * c * grain := Nat.mul_le_mul_right _ hlow
  have hlimit : k * Magnitude.one < limit :=
    (Nat.mul_lt_mul_of_pos_right (by omega : k < 2 ^ 53) Magnitude.one_pos).trans
      (pow_mul_one_lt_limit (by decide))
  obtain ⟨r, hr, hrunits⟩ := Binary64.mul_eq (hbelow.trans_lt hlimit)
  have hgap : (k - 1) * Magnitude.one < ((k - 1) * 2 ^ 12 + 1) * 2 ^ 1062 := by
    have hpow : (2 : Nat) ^ 1062 = 2 ^ 41 * grain := by rw [grain, ← pow_add]
    calc (k - 1) * Magnitude.one = (k - 1) * 2 ^ 12 * 2 ^ 1062 := by rw [one_eq_grain, hpow]; ring
      _ < ((k - 1) * 2 ^ 12 + 1) * 2 ^ 1062 :=
        Nat.mul_lt_mul_of_pos_right (Nat.lt_succ_self _) (by positivity)
  have hsucc : k * Magnitude.one = (k - 1) * Magnitude.one + Magnitude.one := by
    rw [← Nat.succ_mul, Nat.succ_eq_add_one, Nat.sub_add_cancel hkn.1]
  rw [ha, hr]
  exact Binary64.ceil_eq (by omega) (by omega) (hrunits ▸ hbelow)

/-- **The rank of a part of a hundred is that of the exact product, rounded up.** -/
theorem rankOf_eq (hx : IsPercent p x) (hpos : 0 < n) (hn : n < 2 ^ 40) :
    EntryStats.rankOf n x = n * p ⌈/⌉ 100 := by
  obtain ⟨hp, hp', m, c, rfl, hm, hhigh, hlow⟩ := hx
  obtain ⟨hbelow, habove⟩ := product_bounds hp hhigh hlow hpos hn
  have hk : 0 < n * p ⌈/⌉ 100 ∧ n * p ⌈/⌉ 100 ≤ n := by
    have hnp : 0 < n * p := Nat.mul_pos hpos hp
    have hnp' : n * p ≤ n * 100 := Nat.mul_le_mul_left n hp'
    rw [Nat.ceilDiv_eq_add_pred_div]
    omega
  unfold EntryStats.rankOf
  rw [ceil_mul hn hk hm hbelow habove, Binary64.max_ofNat (by omega) (by norm_num),
    Nat.max_eq_left hk.1, Binary64.toNatClamped_ofNat (by omega) (by omega)]

/-- A quotient by a hundred is a part of a hundred, if the numbers around it say so. -/
theorem isPercent_hundredths (hp : 0 < p) (hp' : p ≤ 100)
    (hunits : nearestUnits (p * Magnitude.one) 100 = c * grain) (hhigh : c * 100 ≤ p * 2 ^ 53)
    (hlow : p * 2 ^ 53 < (c + 1) * 100) : IsPercent p (hundredths p) := by
  have hle : nearestUnits (p * Magnitude.one) 100 ≤ 2 ^ 0 * Magnitude.one := by
    refine nearestUnits_le (by norm_num) (short_pow_mul_one 0) ?_
    have := Nat.mul_le_mul_right Magnitude.one hp'
    omega
  obtain ⟨m, hm, hmunits⟩ := Binary64.ofSteps_eq (by norm_num : 0 < 100)
    (hle.trans_lt (pow_mul_one_lt_limit (by decide))) false
  exact ⟨hp, hp', m, c, hm, hmunits.trans hunits, hhigh, hlow⟩

theorem isPercent_50 : IsPercent 50 (hundredths 50) :=
  isPercent_hundredths (c := 4503599627370496) (by norm_num) (by norm_num) (by decide +kernel)
    (by norm_num) (by norm_num)

theorem isPercent_95 : IsPercent 95 (hundredths 95) :=
  isPercent_hundredths (c := 8556839292003942) (by norm_num) (by norm_num) (by decide +kernel)
    (by norm_num) (by norm_num)

theorem isPercent_99 : IsPercent 99 (hundredths 99) :=
  isPercent_hundredths (c := 8917127262193582) (by norm_num) (by norm_num) (by decide +kernel)
    (by norm_num) (by norm_num)

end

/-! ## Reports -/

/-- **The percentiles of a report are those of some buckets**: each one has the rank of its part of
    their number, rounded up. -/
structure Percentiles (r : EntryReport) (buckets : List Nat) : Prop where
  p50 : HasRank (buckets.length * 50 ⌈/⌉ 100) buckets r.p50Ms
  p95 : HasRank (buckets.length * 95 ⌈/⌉ 100) buckets r.p95Ms
  p99 : HasRank (buckets.length * 99 ⌈/⌉ 100) buckets r.p99Ms
  ascending : r.p50Ms ≤ r.p95Ms ∧ r.p95Ms ≤ r.p99Ms

namespace EntryStats.Describes
variable {e : EntryStats} {xs : List Recording} {p : Nat} {x : Binary64}

/-- A percentile of an entry has the rank of its part of the requests. -/
theorem percentile (h : e.Describes xs) (hx : IsPercent p x) (hne : xs ≠ [])
    (hlen : xs.length < 2 ^ 40) :
    HasRank (xs.length * p ⌈/⌉ 100) (xs.map (·.bucket)) (e.percentile x) := by
  have hpos : 0 < xs.length := List.length_pos_iff.2 hne
  have hperm : (writtenOut e.latencies.toList).Perm (xs.map (·.bucket)) := h.latencies.flatMap_perm
  have hcount : (writtenOut e.latencies.toList).length = xs.length := by
    rw [hperm.length_eq, List.length_map]
  have hrank : 0 < xs.length * p ⌈/⌉ 100 ∧ xs.length * p ⌈/⌉ 100 ≤ xs.length := by
    have hmul : 0 < xs.length * p := Nat.mul_pos hpos hx.pos
    have hmul' : xs.length * p ≤ xs.length * 100 := Nat.mul_le_mul_left _ hx.le
    rw [Nat.ceilDiv_eq_add_pred_div]
    omega
  have hwalk : HasRank (xs.length * p ⌈/⌉ 100) (writtenOut e.latencies.toList)
      (EntryStats.bucketReaching (xs.length * p ⌈/⌉ 100) 0 0 e.latencies.toList) :=
    bucketReaching_hasRank h.latencies.ascending hrank.1
      (by rw [hcount, Nat.zero_add]; exact hrank.2)
  unfold EntryStats.percentile
  rw [h.requests, if_neg hpos.ne', rankOf_eq hx hpos hlen]
  exact hwalk.perm hperm

/-- **The percentiles in the report of an entry are those of its latencies.** -/
theorem percentiles (h : e.Describes xs) (hne : xs ≠ []) (hlen : xs.length < 2 ^ 40)
    (method name : String) (elapsed : Duration) :
    Percentiles (e.report method name elapsed) (xs.map (·.bucket)) := by
  have h50 := h.percentile isPercent_50 hne hlen
  have h95 := h.percentile isPercent_95 hne hlen
  have h99 := h.percentile isPercent_99 hne hlen
  have hle {p q : Nat} (hpq : p ≤ q) : xs.length * p ⌈/⌉ 100 ≤ xs.length * q ⌈/⌉ 100 := by
    have := Nat.mul_le_mul_left xs.length hpq
    rw [Nat.ceilDiv_eq_add_pred_div, Nat.ceilDiv_eq_add_pred_div]
    omega
  refine ⟨?_, ?_, ?_, h50.le h95 (hle (by norm_num)), h95.le h99 (hle (by norm_num))⟩
  · rw [List.length_map]; exact h50
  · rw [List.length_map]; exact h95
  · rw [List.length_map]; exact h99

end EntryStats.Describes

/-- **The percentiles of a report are nearest ranks** of the latencies of a list of requests: in the
    entry of every name, and of all requests together. -/
structure StatsReport.Ranked (r : StatsReport) (xs : List Recording) : Prop where
  names : ∀ name, requestsOf name xs ≠ [] → ∃ f ∈ r.entries, f.name = name
  entry : ∀ f ∈ r.entries, f.requests = (requestsOf f.name xs).length ∧ 0 < f.requests ∧
    (f.requests < 2 ^ 40 → Percentiles f ((requestsOf f.name xs).map (·.bucket)))
  total : r.total.requests = xs.length ∧
    (xs ≠ [] → xs.length < 2 ^ 40 → Percentiles r.total (xs.map (·.bucket)))

/-- **Every report of recorded requests has the nearest ranks of their latencies**, and there is
    such a report if no sum over all the requests leaves its range. -/
theorem snapshot_percentiles {xs : List Recording} {s : RequestStats}
    (h : recordAll RequestStats.recordOne {} xs = (s, none)) (startedAt : Timestamp)
    (elapsed : Duration) :
    (InRange xs → ∃ r, s.snapshot startedAt elapsed = .ok r) ∧
      ∀ r, s.snapshot startedAt elapsed = .ok r → r.Ranked xs := by
  have hd := RequestStats.recordAll_describes h
  constructor
  · intro hrange
    obtain ⟨t, ht⟩ := hd.exists_total hrange
    exact ⟨_, RequestStats.snapshot_eq_ok_iff.2 ⟨t, ht, rfl⟩⟩
  · intro r hr
    have hreport := hd.snapshot hr
    have mem (name : String) : requestsOf name xs ≠ [] ↔ name ∈ r.entries.map (·.name) := by
      rw [hreport.names, ← List.length_pos_iff, List.length_pos_iff_exists_mem]
      simp [requestsOf]
    refine ⟨fun name hname => ?_, fun f hf => ?_, ?_⟩
    · exact List.mem_map.1 ((mem name).1 hname)
    · have hne := (mem f.name).2 (List.mem_map_of_mem hf)
      obtain ⟨e, he, hfe⟩ := hreport.entry f hf
      have hrequests : f.requests = (requestsOf f.name xs).length := by
        rw [hfe]; exact he.requests
      refine ⟨hrequests, hrequests ▸ List.length_pos_iff.2 hne, fun hlen => ?_⟩
      have hranks := he.percentiles hne (hrequests ▸ hlen) "GET" f.name elapsed
      rwa [← hfe] at hranks
    · obtain ⟨e, he, hte⟩ := hreport.total
      rw [hte]
      exact ⟨he.requests, fun hne hlen => he.percentiles hne hlen _ _ _⟩

theorem snapshot_percentiles_sample :
    let s := (recordAll RequestStats.recordOne {} sampleRequests).1
    recordAll RequestStats.recordOne {} sampleRequests = (s, none) ∧
      ∃ r, s.snapshot ⟨0, 0⟩ Duration.zero = .ok r ∧ r.Ranked sampleRequests ∧
        Percentiles r.total (sampleRequests.map (·.bucket)) := by
  intro s
  have h : recordAll RequestStats.recordOne {} sampleRequests = (s, none) :=
    Prod.ext rfl (by decide +kernel)
  have hrange : InRange sampleRequests := ⟨by decide, by decide, by decide⟩
  obtain ⟨hok, hranked⟩ := snapshot_percentiles h ⟨0, 0⟩ Duration.zero
  obtain ⟨r, hr⟩ := hok hrange
  exact ⟨h, r, hr, hranked r hr, (hranked r hr).total.2 (by decide) (by decide)⟩

end LoadSwarm
