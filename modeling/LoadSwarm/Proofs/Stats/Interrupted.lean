/-
  Statistics of which some records were interrupted.

  A sum that leaves its range interrupts a record in the middle, and what was added before stays.

  * `RecordStep`: the four ways a record can end, with what each one leaves.
  * `EntryStats.Keeps e timed ended`: `e` keeps the latencies of `timed` and, of these, the outcomes
    of `ended`.
  * `EntryStats.Kept e whole`: `e` keeps some requests, and all that it counts if it is `whole`.  A
    record does not break this, interrupted or not (`Kept.record`), nor does merging (`Kept.merge`).
  * `EntryStats.Consistent e whole`: the figures of an entry fit together, with equalities in place
    of bounds if the entry is whole; it follows from what the entry keeps (`Kept.consistent`).
  * `recordEach xs`: every request is recorded as far as the sums allow.
  * `recordEach_consistent`: the entries and the total are consistent after any requests.
-/
import Mathlib
import LoadSwarm.Proofs.Number.Whole
import LoadSwarm.Proofs.Stats.Requests

namespace LoadSwarm

/-! ## The steps of a record -/

/-- **What a record leaves**: nothing of the request, its number, its number and its latency, or
    all of it. -/
inductive RecordStep (e : EntryStats) (x : Recording) : EntryStats × Option StatsOverflow → Prop
  | uncounted (full : countLimit ≤ e.requests + 1) : RecordStep e x (e, some .count)
  | counted (room : e.requests + 1 < countLimit)
      (long : Duration.limit ≤ e.totalTime.nanos + x.latency.nanos) :
      RecordStep e x ({ e with requests := e.requests + 1 }, some .duration)
  | timed (room : e.requests + 1 < countLimit) (totalTime : Duration)
      (time : totalTime.nanos = e.totalTime.nanos + x.latency.nanos)
      (large : countLimit ≤ e.totalBytes + x.bytes) :
      RecordStep e x
        ({ e with requests := e.requests + 1 }.addLatency totalTime x.latency, some .count)
  | recorded (room : e.requests + 1 < countLimit) (totalTime : Duration)
      (time : totalTime.nanos = e.totalTime.nanos + x.latency.nanos) :
      RecordStep e x (e.plus totalTime x, none)

theorem recordStep (e : EntryStats) (x : Recording) :
    RecordStep e x (e.record x.latency x.outcome) := by
  rcases hr : addCounts e.requests 1 with o | r
  · obtain ⟨hfull, rfl⟩ := addCounts_eq_error_iff.1 hr
    unfold EntryStats.record
    rw [hr]
    exact .uncounted hfull
  obtain ⟨hroom, rfl⟩ := addCounts_eq_ok_iff.1 hr
  rcases hend : e.record x.latency x.outcome with ⟨e', _ | o⟩
  · obtain ⟨t, ht, rfl⟩ := EntryStats.record_eq_plus hend
    exact .recorded hroom t ht
  unfold EntryStats.record at hend
  rcases ht : addDurations e.totalTime x.latency with o' | t
  · obtain ⟨hlong, rfl⟩ := addDurations_eq_error_iff.1 ht
    simp only [hr, ht] at hend
    cases hend
    exact .counted hroom hlong
  · simp only [hr, ht, EntryStats.addOutcome] at hend
    split at hend
    · next res hok =>
      have hbytes : x.bytes = res.bytes.toNat := by unfold Recording.bytes; rw [hok]
      split at hend
      · next o' hb =>
        obtain ⟨hlarge, rfl⟩ := addCounts_eq_error_iff.1 hb
        cases hend
        exact .timed hroom t (addDurations_eq_ok_iff.1 ht) (hbytes ▸ hlarge)
      · cases hend
    · cases hend

/-! ## What an entry keeps -/

namespace EntryStats

/-- **What an entry keeps of requests**: the latencies of some of those that it counts, and the
    outcomes of some of these. -/
structure Keeps (e : EntryStats) (timed ended : List Recording) : Prop where
  requests : timed.length ≤ e.requests
  below : e.requests < countLimit
  among : ended.Sublist timed
  minTime : IsShortest e.minTime timed
  maxTime : IsLongest e.maxTime timed
  latencies : e.latencies.Tallies (timed.map (·.bucket))
  failures : e.failures = ended.countP (·.failed)
  statusCodes : e.statusCodes.Tallies (ended.filterMap (·.status?))
  failureReasons : e.failureReasons.Tallies (ended.filterMap (·.reason?))

namespace Keeps
variable {e a b c : EntryStats} {timed ended timed' ended' : List Recording} {x : Recording}

theorem nil : ({} : EntryStats).Keeps [] [] where
  requests := le_rfl
  below := by decide
  among := .refl _
  minTime := by simp [IsShortest]
  maxTime := by simp [IsLongest]
  latencies := .nil
  failures := rfl
  statusCodes := .nil
  failureReasons := .nil

/-- The number of a request is added. -/
theorem addNumber (h : e.Keeps timed ended) (room : e.requests + 1 < countLimit) :
    { e with requests := e.requests + 1 }.Keeps timed ended :=
  { h with requests := h.requests.trans (Nat.le_succ _), below := room }

/-- The number and the latency of a request are added. -/
theorem addTimed (h : e.Keeps timed ended) (room : e.requests + 1 < countLimit) (t : Duration) :
    ({ e with requests := e.requests + 1 }.addLatency t x.latency).Keeps (timed ++ [x]) ended where
  requests := by simpa [addLatency] using h.requests
  below := room
  among := h.among.trans (List.sublist_append_left _ _)
  minTime := by rw [addLatency_eq]; exact h.minTime.append (isShortest_singleton x)
  maxTime := h.maxTime.append (isLongest_singleton x)
  latencies := by simpa [addLatency, Recording.bucket] using h.latencies.addCount x.bucket one_pos
  failures := h.failures
  statusCodes := h.statusCodes
  failureReasons := h.failureReasons

/-- All of a request is added. -/
theorem addWhole (h : e.Keeps timed ended) (room : e.requests + 1 < countLimit) (t : Duration) :
    (e.plus t x).Keeps (timed ++ [x]) (ended ++ [x]) where
  requests := by simpa [plus] using h.requests
  below := room
  among := h.among.append (.refl _)
  minTime := h.minTime.append (isShortest_singleton x)
  maxTime := h.maxTime.append (isLongest_singleton x)
  latencies := by simpa [plus] using h.latencies.addCount x.bucket one_pos
  failures := by simp [plus, h.failures, List.countP_cons]
  statusCodes := by
    cases hs : x.status? with
    | none => simpa [plus, hs] using h.statusCodes
    | some code => simpa [plus, hs] using h.statusCodes.addCount code one_pos
  failureReasons := by
    cases hs : x.reason? with
    | none => simpa [plus, hs] using h.failureReasons
    | some reason => simpa [plus, hs] using h.failureReasons.addCount reason one_pos

/-- Two entries together keep what each of them keeps. -/
theorem merge (ha : a.Keeps timed ended) (hb : b.Keeps timed' ended') (hc : a.merge b = .ok c) :
    c.Keeps (timed ++ timed') (ended ++ ended') := by
  obtain ⟨⟨hroom, -, -⟩, t, -, rfl⟩ := merge_eq_ok_iff.1 hc
  refine ⟨?_, hroom, ha.among.append hb.among, ha.minTime.append hb.minTime,
    ha.maxTime.append hb.maxTime, ?_, ?_, ?_, ?_⟩
  · rw [List.length_append]
    exact Nat.add_le_add ha.requests hb.requests
  · simpa [append] using ha.latencies.addAll hb.latencies
  · simp [append, ha.failures, hb.failures]
  · simpa [append] using ha.statusCodes.addAll hb.statusCodes
  · simpa [append] using ha.failureReasons.addAll hb.failureReasons

end Keeps

/-- An entry keeps something of its requests, and everything if it is whole. -/
def Kept (e : EntryStats) (whole : Prop) : Prop :=
  ∃ timed ended, e.Keeps timed ended ∧ (whole → timed.length = e.requests ∧ ended = timed)

namespace Kept
variable {e a b c : EntryStats} {whole whole' : Prop}

theorem nil : ({} : EntryStats).Kept whole := ⟨[], [], .nil, fun _ => ⟨rfl, rfl⟩⟩

theorem mono (h : e.Kept whole) (hw : whole' → whole) : e.Kept whole' := by
  obtain ⟨timed, ended, hk, hwhole⟩ := h
  exact ⟨timed, ended, hk, fun h' => hwhole (hw h')⟩

/-- **A record keeps what was kept**, and the entry stays whole if it is not interrupted. -/
theorem record (h : e.Kept whole) (x : Recording) :
    (e.record x.latency x.outcome).1.Kept
      (whole ∧ (e.record x.latency x.outcome).2 = none) := by
  obtain ⟨timed, ended, hk, hwhole⟩ := h
  have hstep := recordStep e x
  generalize e.record x.latency x.outcome = r at hstep ⊢
  cases hstep with
  | uncounted => exact ⟨timed, ended, hk, nofun⟩
  | counted room => exact ⟨timed, ended, hk.addNumber room, nofun⟩
  | timed room t => exact ⟨timed ++ [x], ended, hk.addTimed room t, nofun⟩
  | recorded room t =>
    refine ⟨timed ++ [x], ended ++ [x], hk.addWhole room t, fun ⟨hw, _⟩ => ?_⟩
    obtain ⟨hlen, rfl⟩ := hwhole hw
    exact ⟨by simp [plus, hlen], rfl⟩

theorem merge (ha : a.Kept whole) (hb : b.Kept whole) (hc : a.merge b = .ok c) : c.Kept whole := by
  obtain ⟨timed, ended, hka, hwa⟩ := ha
  obtain ⟨timed', ended', hkb, hwb⟩ := hb
  refine ⟨_, _, hka.merge hkb hc, fun hw => ?_⟩
  obtain ⟨-, t, -, rfl⟩ := merge_eq_ok_iff.1 hc
  obtain ⟨hla, rfl⟩ := hwa hw
  obtain ⟨hlb, rfl⟩ := hwb hw
  exact ⟨by simp [append, hla, hlb], rfl⟩

end Kept

end EntryStats

/-! ## Figures that fit together -/

/-- The reason that an answer with a status is counted under. -/
def statusReason (code : Nat) : String := "HTTP " ++ toString code

theorem statusReason_inj {c c' : Nat} : statusReason c = statusReason c' ↔ c = c' := by
  simp [statusReason]

/-- The labels of errors. -/
def HttpError.kinds : List String := ["timeout", "connect", "network", "url", "config"]

theorem HttpError.kind_mem_kinds (e : HttpError) : e.kind ∈ HttpError.kinds := by
  rcases e with (_ | _ | _) | _ | _ <;> simp [HttpError.kind, HttpError.kinds]

/-- No status is counted under the label of an error. -/
theorem statusReason_notMem_kinds (code : Nat) : statusReason code ∉ HttpError.kinds := by
  have hhead : (statusReason code).toList.head? = some 'H' := by
    simp [statusReason, String.toList_append]
  intro hmem
  have hno : ∀ kind ∈ HttpError.kinds, kind.toList.head? ≠ some 'H' := by decide
  exact hno _ hmem hhead

namespace Recording
variable {x : Recording}

/-- **A request is counted under a status if it failed with that one**, and only then. -/
theorem reason?_eq_statusReason_iff {code : Nat} :
    x.reason? = some (statusReason code) ↔ x.status? = some code ∧ 400 ≤ code := by
  obtain ⟨name, latency, err | res⟩ := x
  · simp only [reason?, status?, Option.some.injEq, reduceCtorEq, false_and, iff_false]
    intro he
    exact statusReason_notMem_kinds code (he ▸ err.kind_mem_kinds)
  · simp only [reason?, status?, Option.some.injEq]
    split_ifs with h
    · rw [Option.some.injEq, ← statusReason, statusReason_inj]
      exact ⟨fun he => ⟨he, he ▸ h⟩, And.left⟩
    · constructor
      · intro he; cases he
      · rintro ⟨he, hle⟩; exact absurd (he ▸ hle) h

/-- A request has a status, or it is counted under the label of an error. -/
theorem status_or_kind (x : Recording) :
    (x.status?.isSome = true ∧ ∀ r, x.reason? = some r → r ∉ HttpError.kinds) ∨
      (x.status? = none ∧ ∃ r ∈ HttpError.kinds, x.reason? = some r) := by
  obtain ⟨name, latency, err | res⟩ := x
  · exact .inr ⟨rfl, err.kind, err.kind_mem_kinds, rfl⟩
  · refine .inl ⟨rfl, fun r hr => ?_⟩
    simp only [reason?] at hr
    split_ifs at hr
    cases hr
    exact statusReason_notMem_kinds _

end Recording

namespace EntryStats

/-- The requests that are counted under the labels of errors. -/
def transportFailures (e : EntryStats) : Nat := e.failureReasons.sumOf (· ∈ HttpError.kinds)

/-- **The figures of an entry fit together**, with equalities in place of bounds if the entry is
    whole. -/
structure Consistent (e : EntryStats) (whole : Prop) : Prop where
  failures : e.failures ≤ e.requests
  reasons : e.failureReasons.sum = e.failures
  status : ∀ code, e.failureReasons.get? (statusReason code) =
    if 400 ≤ code then e.statusCodes.get? code else none
  latencies : e.latencies.sum ≤ e.requests ∧ (whole → e.latencies.sum = e.requests)
  outcomes : e.statusCodes.sum + e.transportFailures ≤ e.latencies.sum ∧
    (whole → e.statusCodes.sum + e.transportFailures = e.latencies.sum)
  minTime : ∀ d, e.minTime = some d → d ≤ e.maxTime
  percentile : ∀ part, e.percentile part = 0 ∨ e.percentile part ∈ e.latencies.keys
  failureRatio : ∀ method name elapsed,
    Binary64.zero ≤ (e.report method name elapsed).failureRatio ∧
      (e.report method name elapsed).failureRatio ≤ Binary64.ofNat 1

/-- The walk over buckets ends at one of them, or where it was before the first one. -/
theorem bucketReaching_mem (wanted : Nat) : ∀ (seen last : Nat) (l : List (Nat × Nat)),
    bucketReaching wanted seen last l = last ∨ bucketReaching wanted seen last l ∈ l.map (·.1)
  | _, last, [] => .inl rfl
  | seen, last, (b, n) :: l => by
    unfold bucketReaching
    split_ifs
    · exact .inr (by simp)
    · rcases bucketReaching_mem wanted (seen + n) b l with h | h
      · exact .inr (by rw [h]; simp)
      · exact .inr (List.mem_cons_of_mem _ h)

namespace Keeps
variable {e : EntryStats} {timed ended : List Recording}

theorem failures_le (h : e.Keeps timed ended) : e.failures ≤ e.requests := by
  calc e.failures = ended.countP (·.failed) := h.failures
    _ ≤ ended.length := List.countP_le_length
    _ ≤ timed.length := h.among.length_le
    _ ≤ e.requests := h.requests

/-- The reasons are those of the failures. -/
theorem reasons_sum (h : e.Keeps timed ended) : e.failureReasons.sum = e.failures := by
  rw [h.failureReasons.sum_eq, h.failures, List.length_filterMap_eq_countP]
  exact List.countP_congr fun x _ => by rw [x.isSome_reason?]

theorem status (h : e.Keeps timed ended) (code : Nat) :
    e.failureReasons.get? (statusReason code) =
      if 400 ≤ code then e.statusCodes.get? code else none := by
  have hmem : statusReason code ∈ ended.filterMap (·.reason?) ↔
      code ∈ ended.filterMap (·.status?) ∧ 400 ≤ code := by
    simp only [List.mem_filterMap, Recording.reason?_eq_statusReason_iff]
    exact ⟨fun ⟨x, hx, hs, hle⟩ => ⟨⟨x, hx, hs⟩, hle⟩, fun ⟨⟨x, hx, hs⟩, hle⟩ => ⟨x, hx, hs, hle⟩⟩
  rw [h.failureReasons.get?, h.statusCodes.get?]
  by_cases hle : 400 ≤ code
  · have hcount : (ended.filterMap (·.reason?)).count (statusReason code) =
        (ended.filterMap (·.status?)).count code := by
      rw [List.count_filterMap, List.count_filterMap]
      refine List.countP_congr fun x _ => ?_
      simp [Recording.reason?_eq_statusReason_iff, hle]
    simp only [hmem, hle, and_true, if_true, hcount]
  · rw [if_neg fun hin => hle (hmem.1 hin).2, if_neg hle]

theorem latencies_sum (h : e.Keeps timed ended) : e.latencies.sum = timed.length := by
  rw [h.latencies.sum_eq, List.length_map]

/-- Every outcome is counted under a status or under the label of an error. -/
theorem outcomes_sum (h : e.Keeps timed ended) :
    e.statusCodes.sum + e.transportFailures = ended.length := by
  unfold transportFailures
  rw [h.statusCodes.sum_eq, h.failureReasons.sumOf_eq, List.length_filterMap_eq_countP,
    List.countP_filterMap, List.length_eq_countP_add_countP (·.status?.isSome) (l := ended)]
  refine congrArg (_ + ·) (List.countP_congr fun x _ => ?_)
  rcases x.status_or_kind with ⟨hs, hno⟩ | ⟨hs, r, hr, hreason⟩
  · rcases hx : x.reason? with _ | r
    · simp [hs]
    · simp [hs, hno r hx]
  · simp [hs, hreason, hr]

theorem minTime_le (h : e.Keeps timed ended) (d : Duration) (hd : e.minTime = some d) :
    d ≤ e.maxTime := by
  obtain ⟨⟨x, hx, rfl⟩, -⟩ := (h.minTime d).1 hd
  exact h.maxTime.1 x hx

theorem failureRatio (h : e.Keeps timed ended) (method name : String) (elapsed : Duration) :
    Binary64.zero ≤ (e.report method name elapsed).failureRatio ∧
      (e.report method name elapsed).failureRatio ≤ Binary64.ofNat 1 := by
  unfold EntryReport.failureRatio report
  dsimp only
  split_ifs with hzero
  · exact ⟨by decide, by decide +kernel⟩
  · exact Binary64.ofNat_div_ofNat h.failures_le (Nat.pos_of_ne_zero hzero)
      (by simpa [countLimit] using h.below)

end Keeps

/-- **An entry that keeps something of its requests has figures that fit together.** -/
theorem Kept.consistent {e : EntryStats} {whole : Prop} (h : e.Kept whole) : e.Consistent whole := by
  obtain ⟨timed, ended, hk, hwhole⟩ := h
  have hlatencies := hk.latencies_sum
  have houtcomes := hk.outcomes_sum
  refine ⟨hk.failures_le, hk.reasons_sum, hk.status, ⟨?_, fun hw => ?_⟩, ⟨?_, fun hw => ?_⟩,
    hk.minTime_le, fun part => ?_, hk.failureRatio⟩
  · exact hlatencies ▸ hk.requests
  · exact hlatencies.trans (hwhole hw).1
  · rw [hlatencies, houtcomes]
    exact hk.among.length_le
  · rw [hlatencies, houtcomes, (hwhole hw).2]
  · unfold EntryStats.percentile
    split_ifs
    · exact .inl rfl
    · exact bucketReaching_mem _ 0 0 e.latencies.toList

end EntryStats

/-! ## All entries -/

namespace RequestStats

/-- The next request is recorded as far as the sums allow; the requests that were interrupted are
    collected. -/
def recordNext (acc : RequestStats × List Recording) (x : Recording) :
    RequestStats × List Recording :=
  let result := acc.1.recordOne x
  (result.1, if result.2 = none then acc.2 else acc.2 ++ [x])

/-- Requests recorded one after the other, every one as far as the sums allow, and those of them
    that were interrupted. -/
def recordEach (xs : List Recording) : RequestStats × List Recording := xs.foldl recordNext ({}, [])

/-- Every entry keeps something of its requests, and everything if none of them was interrupted. -/
structure Kept (s : RequestStats) (interrupted : List Recording) : Prop where
  ascending : s.entries.Ascending
  entry : ∀ name, ((s.entries.get? name).getD {}).Kept (∀ x ∈ interrupted, x.name ≠ name)

theorem Kept.nil : ({} : RequestStats).Kept [] := ⟨List.Pairwise.nil, fun _ => .nil⟩

/-- **Every record keeps what the entries keep.** -/
theorem Kept.recordNext {acc : RequestStats × List Recording} (h : acc.1.Kept acc.2)
    (x : Recording) : (recordNext acc x).1.Kept (recordNext acc x).2 := by
  obtain ⟨s, broken⟩ := acc
  have hentry := (h.entry x.name).record x
  refine ⟨h.ascending.alter _ _, fun name => ?_⟩
  -- what is collected now was collected before, and is the new request if that was interrupted
  have hbefore (hall : ∀ y ∈ (RequestStats.recordNext (s, broken) x).2, y.name ≠ name) :
      ∀ y ∈ broken, y.name ≠ name := by
    intro y hy
    refine hall y ?_
    unfold RequestStats.recordNext
    dsimp only
    split_ifs
    · exact hy
    · exact List.mem_append_left _ hy
  have hget : ((RequestStats.recordNext (s, broken) x).1.entries.get? name) =
      if x.name = name then some (((s.entries.get? x.name).getD {}).record x.latency x.outcome).1
      else s.entries.get? name := SortedMap.get?_alter h.ascending _ _ _
  rw [hget]
  split_ifs with hname
  · subst hname
    refine hentry.mono fun hall => ⟨hbefore hall, ?_⟩
    by_contra hinterrupted
    refine hall x ?_ rfl
    have hresult : (s.recordOne x).2 ≠ none := hinterrupted
    simp [RequestStats.recordNext, hresult]
  · exact (h.entry name).mono hbefore

/-- **The entries keep their requests, whatever is recorded.** -/
theorem recordEach_kept (xs : List Recording) : (recordEach xs).1.Kept (recordEach xs).2 := by
  unfold recordEach
  induction xs using List.reverseRecOn with
  | nil => exact .nil
  | append_singleton xs x ih =>
    rw [List.foldl_concat]
    exact ih.recordNext x

/-- Entries that are merged keep what each of them keeps. -/
theorem foldlM_merge_kept {whole : Prop} : ∀ {l : List (String × EntryStats)} {acc t : EntryStats},
    acc.Kept whole → (∀ e ∈ l, e.2.Kept whole) → l.foldlM (fun acc e => acc.merge e.2) acc = .ok t →
      t.Kept whole := by
  intro l
  induction l with
  | nil => intro acc t h _ ht; cases ht; exact h
  | cons e l ih =>
    intro acc t h hl ht
    rw [List.foldlM_cons] at ht
    rcases hm : acc.merge e.2 with _ | m
    · rw [hm] at ht; cases ht
    · rw [hm] at ht
      exact ih (h.merge (hl e (by simp)) hm) (fun e' he' => hl e' (by simp [he'])) ht

/-- **All entries together keep what each of them keeps.** -/
theorem Kept.total {s : RequestStats} {broken : List Recording} (h : s.Kept broken)
    {t : EntryStats} (ht : s.total = .ok t) : t.Kept (broken = []) := by
  refine foldlM_merge_kept .nil (fun e he => ?_) ht
  have hentry := h.entry e.1
  rw [SortedMap.get?_of_mem h.ascending he] at hentry
  exact hentry.mono fun hnone => by simp [hnone]

/-- **The figures of the statistics fit together**: those of every entry, those of all requests in
    any report, and the parts that failed. -/
structure Consistent (s : RequestStats) (interrupted : List Recording) : Prop where
  entry : ∀ name e, s.entries.get? name = some e →
    e.Consistent (∀ x ∈ interrupted, x.name ≠ name)
  total : ∀ startedAt elapsed r, s.snapshot startedAt elapsed = .ok r →
    ∃ t, s.total = .ok t ∧ t.Consistent (interrupted = []) ∧
      r.total = t.report "" totalName elapsed
  failureRatio : ∀ startedAt elapsed r, s.snapshot startedAt elapsed = .ok r →
    ∀ f ∈ r.total :: r.entries,
      Binary64.zero ≤ f.failureRatio ∧ f.failureRatio ≤ Binary64.ofNat 1

end RequestStats

/-- **The figures of the statistics fit together after any requests**, also of those that were
    interrupted by a sum that left its range. -/
theorem recordEach_consistent (xs : List Recording) :
    (RequestStats.recordEach xs).1.Consistent (RequestStats.recordEach xs).2 := by
  have h := RequestStats.recordEach_kept xs
  generalize RequestStats.recordEach xs = acc at h
  obtain ⟨s, broken⟩ := acc
  have entry (name : String) (e : EntryStats) (he : s.entries.get? name = some e) :
      e.Consistent (∀ x ∈ broken, x.name ≠ name) := by
    have hkept := h.entry name
    rw [he] at hkept
    exact hkept.consistent
  refine ⟨entry, fun startedAt elapsed r hr => ?_, fun startedAt elapsed r hr f hf => ?_⟩
  · obtain ⟨t, ht, rfl⟩ := RequestStats.snapshot_eq_ok_iff.1 hr
    exact ⟨t, ht, (h.total ht).consistent, rfl⟩
  · obtain ⟨t, ht, rfl⟩ := RequestStats.snapshot_eq_ok_iff.1 hr
    rcases List.mem_cons.1 hf with rfl | hf
    · exact (h.total ht).consistent.failureRatio _ _ _
    · obtain ⟨e, he, rfl⟩ := List.mem_map.1 hf
      exact (entry e.1 e.2 (SortedMap.get?_of_mem h.ascending he)).failureRatio _ _ _

/-- The bytes of a second large answer leave their range: its number and its latency stay. -/
example :
    let x : Recording := ⟨"/clusters/a", Duration.zero, .ok ⟨200, 18446744073709551615⟩⟩
    let (s, interrupted) := RequestStats.recordEach [x, x]
    interrupted = [x] ∧ (s.entries.get? "/clusters/a").map
      (fun e => (e.requests, e.latencies.sum, e.statusCodes.sum)) = some (2, 2, 1) := by
  decide +kernel

end LoadSwarm
