/-
  What an entry keeps of its requests, against the plain list of them.

  * `Recording`: one request as it is recorded.
  * `EntryStats.Describes e xs`: every figure of `e` is the direct definition of that figure
    on the list `xs`.  It determines the entry (`Describes.unique`) and does not depend on the
    order of the list (`Describes.perm`).
  * `Describes.record`, `Describes.merge`: recording a request adds it to the list, and merging
    two entries appends their lists, as long as no sum leaves its range (`InRange`).
-/
import Mathlib
import LoadSwarm.Proofs.Stats.SortedMap
import LoadSwarm.Proofs.Time.Seconds
import LoadSwarm.Stats.Report

namespace LoadSwarm

/-! ## Durations -/

namespace Duration

theorem nanos_min (a b : Duration) : (a.min b).nanos = Min.min a.nanos b.nanos := by
  unfold Duration.min; split_ifs with h <;> rw [le_iff] at h <;> omega

theorem nanos_max (a b : Duration) : (a.max b).nanos = Max.max a.nanos b.nanos := by
  unfold Duration.max; split_ifs with h <;> rw [le_iff] at h <;> omega

theorem add?_eq_some_iff {a b c : Duration} : a.add? b = some c ↔ c.nanos = a.nanos + b.nanos :=
  ofNanos?_eq_some_iff

end Duration

theorem addCounts_eq_ok_iff {a b n : Nat} :
    addCounts a b = .ok n ↔ a + b < countLimit ∧ n = a + b := by
  unfold addCounts; split_ifs with h <;> simp [h, eq_comm]

theorem addCounts_eq_error_iff {a b : Nat} {o : StatsOverflow} :
    addCounts a b = .error o ↔ countLimit ≤ a + b ∧ o = .count := by
  unfold addCounts; split_ifs with h <;> simp [h, eq_comm, ← Nat.not_lt]

theorem addDurations_eq_ok_iff {a b c : Duration} :
    addDurations a b = .ok c ↔ c.nanos = a.nanos + b.nanos := by
  unfold addDurations
  cases h : a.add? b with
  | some d =>
    rw [Duration.add?_eq_some_iff] at h
    simp only [Except.ok.injEq]
    exact ⟨fun hd => hd ▸ h, fun hc => Duration.ext_nanos (h.trans hc.symm)⟩
  | none =>
    refine ⟨nofun, fun hc => ?_⟩
    rw [Duration.add?_eq_some_iff.2 hc] at h; cases h

theorem addDurations_eq_error_iff {a b : Duration} {o : StatsOverflow} :
    addDurations a b = .error o ↔ Duration.limit ≤ a.nanos + b.nanos ∧ o = .duration := by
  unfold addDurations Duration.add? Duration.ofNanos?
  split_ifs with h <;> simp [h, eq_comm, ← Nat.not_lt]

/-! ## Requests and their figures -/

/-- A request as it is recorded. -/
structure Recording where
  name : String
  latency : Duration
  outcome : Outcome
  deriving DecidableEq

namespace Recording

/-- The bytes of the answer, none without an answer. -/
def bytes (x : Recording) : Nat :=
  match x.outcome with
  | .ok r => r.bytes.toNat
  | .error _ => 0

/-- The status of the answer, if there is one. -/
def status? (x : Recording) : Option Nat :=
  match x.outcome with
  | .ok r => some r.status.toNat
  | .error _ => none

/-- The bucket of the latency. -/
def bucket (x : Recording) : Nat := latencyBucket x.latency

/-- Without an answer, or with a status from 400 on. -/
def failed (x : Recording) : Bool :=
  match x.outcome with
  | .ok r => 400 ≤ r.status.toNat
  | .error _ => true

/-- The reason of a failure: the status of the answer, or the label of the error. -/
def reason? (x : Recording) : Option String :=
  match x.outcome with
  | .ok r => if 400 ≤ r.status.toNat then some ("HTTP " ++ toString r.status.toNat) else none
  | .error e => some e.kind

theorem failureReason_eq (x : Recording) : failureReason x.outcome = x.reason? := by
  obtain ⟨n, l, e | r⟩ := x
  · rfl
  · simp [failureReason, reason?, Response.isFailure]

theorem isSome_reason? (x : Recording) : x.reason?.isSome = x.failed := by
  obtain ⟨n, l, e | r⟩ := x
  · rfl
  · by_cases h : 400 ≤ r.status.toNat <;> simp [reason?, failed, h]

end Recording

/-- No sum over a list of requests leaves its range. -/
structure InRange (xs : List Recording) : Prop where
  count : xs.length < countLimit
  time : (xs.map (·.latency.nanos)).sum < Duration.limit
  bytes : (xs.map (·.bytes)).sum < countLimit

namespace InRange
variable {xs ys : List Recording}

theorem of_append (h : InRange (xs ++ ys)) : InRange xs := by
  obtain ⟨h1, h2, h3⟩ := h
  simp only [List.length_append, List.map_append, List.sum_append] at h1 h2 h3
  exact ⟨by omega, by omega, by omega⟩

theorem perm (h : InRange xs) (hp : xs.Perm ys) : InRange ys :=
  ⟨hp.length_eq ▸ h.count, (hp.map (·.latency.nanos)).sum_eq ▸ h.time,
    (hp.map (·.bytes)).sum_eq ▸ h.bytes⟩

end InRange

/-- The shortest latency of some requests, if there are any. -/
def IsShortest (o : Option Duration) (xs : List Recording) : Prop :=
  ∀ d, o = some d ↔ (∃ x ∈ xs, x.latency = d) ∧ ∀ x ∈ xs, d ≤ x.latency

/-- The shorter one of two latencies, either of which may be missing. -/
def shorterOf : Option Duration → Option Duration → Option Duration
  | some d, some d' => some (d.min d')
  | o, o' => o.or o'

/-- The longest latency of some requests, no time without any. -/
def IsLongest (d : Duration) (xs : List Recording) : Prop :=
  (∀ x ∈ xs, x.latency ≤ d) ∧ (d = Duration.zero ∨ ∃ x ∈ xs, x.latency = d)

theorem isShortest_singleton (x : Recording) : IsShortest (some x.latency) [x] := by
  intro d; simp only [Option.some.injEq, List.mem_singleton, exists_eq_left, forall_eq]
  exact ⟨fun h => ⟨h, h ▸ Nat.le_refl _⟩, fun h => h.1⟩

theorem isLongest_singleton (x : Recording) : IsLongest x.latency [x] :=
  ⟨by simp [Duration.le_iff], Or.inr ⟨x, by simp⟩⟩

theorem IsShortest.eq_none {xs : List Recording} (h : IsShortest none xs) : xs = [] := by
  by_contra hne
  obtain ⟨x, hx, hmin⟩ := xs.toFinset.exists_min_image (·.latency.nanos) (by simpa using hne)
  exact nomatch (h x.latency).2 ⟨⟨x, by simpa using hx, rfl⟩, fun y hy => hmin y (by simpa using hy)⟩

theorem IsShortest.append {xs ys : List Recording} {o o' : Option Duration} (h : IsShortest o xs)
    (h' : IsShortest o' ys) : IsShortest (shorterOf o o') (xs ++ ys) := by
  rcases o with _ | a
  · rw [h.eq_none]; simpa [shorterOf] using h'
  rcases o' with _ | b
  · rw [h'.eq_none]; simpa [shorterOf] using h
  obtain ⟨⟨x, hx, hxa⟩, ha⟩ := (h a).1 rfl
  obtain ⟨⟨y, hy, hyb⟩, hb⟩ := (h' b).1 rfl
  have hle : ∀ z ∈ xs ++ ys, a.min b ≤ z.latency := by
    intro z hz
    rw [Duration.le_iff, Duration.nanos_min]
    rcases List.mem_append.1 hz with hz | hz
    · exact (Nat.min_le_left _ _).trans (ha z hz)
    · exact (Nat.min_le_right _ _).trans (hb z hz)
  have hmem : ∃ z ∈ xs ++ ys, z.latency = a.min b := by
    unfold Duration.min; split_ifs
    · exact ⟨x, by simp [hx], hxa⟩
    · exact ⟨y, by simp [hy], hyb⟩
  intro d
  refine ⟨fun hd => by cases hd; exact ⟨hmem, hle⟩, fun ⟨⟨z, hz, hzd⟩, hd⟩ => ?_⟩
  obtain ⟨z', hz', hzm⟩ := hmem
  have h1 : a.min b ≤ d := hzd ▸ hle z hz
  have h2 : d ≤ a.min b := hzm ▸ hd z' hz'
  exact congrArg some (Duration.ext_nanos (Nat.le_antisymm h1 h2))

theorem IsLongest.append {xs ys : List Recording} {d d' : Duration} (h : IsLongest d xs)
    (h' : IsLongest d' ys) : IsLongest (d.max d') (xs ++ ys) := by
  refine ⟨fun z hz => ?_, ?_⟩
  · rw [Duration.le_iff, Duration.nanos_max]
    rcases List.mem_append.1 hz with hz | hz
    · exact (h.1 z hz).trans (Nat.le_max_left _ _)
    · exact (h'.1 z hz).trans (Nat.le_max_right _ _)
  · unfold Duration.max; split_ifs
    · exact h'.2.imp_right fun ⟨y, hy, he⟩ => ⟨y, by simp [hy], he⟩
    · exact h.2.imp_right fun ⟨x, hx, he⟩ => ⟨x, by simp [hx], he⟩

theorem IsLongest.le {xs : List Recording} {d d' : Duration} (h : IsLongest d xs)
    (h' : IsLongest d' xs) : d.nanos ≤ d'.nanos := by
  rcases h.2 with hz | ⟨x, hx, hl⟩
  · rw [hz]; exact Nat.zero_le _
  · exact hl ▸ h'.1 x hx

namespace EntryStats

/-- **The figures of an entry are those of a list of requests.**  Each one is defined by the list
    alone. -/
structure Describes (e : EntryStats) (xs : List Recording) : Prop where
  requests : e.requests = xs.length
  failures : e.failures = xs.countP (·.failed)
  totalTime : e.totalTime.nanos = (xs.map (·.latency.nanos)).sum
  minTime : IsShortest e.minTime xs
  maxTime : IsLongest e.maxTime xs
  totalBytes : e.totalBytes = (xs.map (·.bytes)).sum
  latencies : e.latencies.Tallies (xs.map (·.bucket))
  statusCodes : e.statusCodes.Tallies (xs.filterMap (·.status?))
  failureReasons : e.failureReasons.Tallies (xs.filterMap (·.reason?))

namespace Describes
variable {e e' : EntryStats} {xs ys : List Recording}

theorem nil : ({} : EntryStats).Describes [] where
  requests := rfl
  failures := rfl
  totalTime := rfl
  minTime := by simp [IsShortest]
  maxTime := by simp [IsLongest]
  totalBytes := rfl
  latencies := .nil
  statusCodes := .nil
  failureReasons := .nil

/-- The figures do not depend on the order of the requests. -/
theorem perm (h : e.Describes xs) (hp : xs.Perm ys) : e.Describes ys where
  requests := h.requests.trans hp.length_eq
  failures := h.failures.trans (hp.countP_eq _)
  totalTime := h.totalTime.trans (hp.map _).sum_eq
  minTime d := by rw [h.minTime]; simp only [hp.mem_iff]
  maxTime := by simpa only [IsLongest, hp.mem_iff] using h.maxTime
  totalBytes := h.totalBytes.trans (hp.map _).sum_eq
  latencies := h.latencies.perm (hp.map _)
  statusCodes := h.statusCodes.perm (hp.filterMap _)
  failureReasons := h.failureReasons.perm (hp.filterMap _)

/-- **A list of requests has one entry.** -/
theorem unique (h : e.Describes xs) (h' : e'.Describes xs) : e = e' := by
  have hmin : e.minTime = e'.minTime := Option.ext fun d => by rw [h.minTime, h'.minTime]
  have hmax : e.maxTime = e'.maxTime :=
    Duration.ext_nanos (Nat.le_antisymm (h.maxTime.le h'.maxTime) (h'.maxTime.le h.maxTime))
  have htime := Duration.ext_nanos (h.totalTime.trans h'.totalTime.symm)
  have hlat := h.latencies.unique h'.latencies
  have hstat := h.statusCodes.unique h'.statusCodes
  have hreas := h.failureReasons.unique h'.failureReasons
  have hreq := h.requests.trans h'.requests.symm
  have hfail := h.failures.trans h'.failures.symm
  have hbytes := h.totalBytes.trans h'.totalBytes.symm
  cases e; cases e'
  simp only at hmin hmax htime hlat hstat hreas hreq hfail hbytes
  simp [*]

end Describes

/-! ## Recording -/

/-- An entry with one more request, whatever the sums come to. -/
def plus (e : EntryStats) (totalTime : Duration) (x : Recording) : EntryStats where
  requests := e.requests + 1
  failures := e.failures + if x.failed then 1 else 0
  totalTime := totalTime
  minTime := shorterOf e.minTime (some x.latency)
  maxTime := e.maxTime.max x.latency
  totalBytes := e.totalBytes + x.bytes
  latencies := e.latencies.addCount x.bucket 1
  statusCodes := match x.status? with
    | some code => e.statusCodes.addCount code 1
    | none => e.statusCodes
  failureReasons := match x.reason? with
    | some reason => e.failureReasons.addCount reason 1
    | none => e.failureReasons

theorem addLatency_eq (e : EntryStats) (t l : Duration) :
    e.addLatency t l =
      { e with
        totalTime := t
        maxTime := e.maxTime.max l
        minTime := shorterOf e.minTime (some l)
        latencies := e.latencies.addCount (latencyBucket l) 1 } := by
  unfold addLatency; cases e.minTime <;> rfl

theorem addFailure_eq (e : EntryStats) (x : Recording) :
    e.addFailure x.outcome =
      { e with
        failures := e.failures + if x.failed then 1 else 0
        failureReasons := match x.reason? with
          | some reason => e.failureReasons.addCount reason 1
          | none => e.failureReasons } := by
  unfold addFailure
  rw [← x.isSome_reason?, x.failureReason_eq]
  cases x.reason? <;> rfl

/-- A request that is recorded without an overflow is added to the entry. -/
theorem record_eq_plus {e e' : EntryStats} {x : Recording}
    (h : e.record x.latency x.outcome = (e', none)) :
    ∃ t : Duration, t.nanos = e.totalTime.nanos + x.latency.nanos ∧ e' = e.plus t x := by
  obtain ⟨n, l, o⟩ := x
  unfold record at h
  rcases hr : addCounts e.requests 1 with _ | r
  · simp [hr] at h
  obtain ⟨-, rfl⟩ := addCounts_eq_ok_iff.1 hr
  rcases ht : addDurations e.totalTime l with _ | t
  · simp [hr, ht] at h
  refine ⟨t, addDurations_eq_ok_iff.1 ht, ?_⟩
  simp only [hr, ht] at h
  rcases o with err | res
  · simp only [addOutcome, Prod.mk.injEq, and_true] at h
    rw [← h, addLatency_eq, addFailure_eq _ ⟨n, l, .error err⟩]; rfl
  · simp only [addOutcome] at h
    rcases hb : addCounts (addLatency { e with requests := e.requests + 1 } t l).totalBytes
        res.bytes.toNat with _ | b
    · simp [hb] at h
    · obtain ⟨-, rfl⟩ := addCounts_eq_ok_iff.1 hb
      simp only [hb, Prod.mk.injEq, and_true] at h
      rw [← h, addLatency_eq, addFailure_eq _ ⟨n, l, .ok res⟩]; rfl

/-- A request is recorded without an overflow if the sums with it stay in their ranges. -/
theorem record_snd_eq_none {e : EntryStats} {x : Recording} (hr : e.requests + 1 < countLimit)
    (ht : e.totalTime.nanos + x.latency.nanos < Duration.limit)
    (hb : e.totalBytes + x.bytes < countLimit) : (e.record x.latency x.outcome).2 = none := by
  obtain ⟨n, l, o⟩ := x
  have hr' : addCounts e.requests 1 = .ok (e.requests + 1) := addCounts_eq_ok_iff.2 ⟨hr, rfl⟩
  have ht' : addDurations e.totalTime l = .ok ⟨_, ht⟩ := addDurations_eq_ok_iff.2 rfl
  simp only [record, hr', ht']
  rcases o with err | res
  · rfl
  · have hb' : addCounts e.totalBytes res.bytes.toNat = .ok (e.totalBytes + res.bytes.toNat) :=
      addCounts_eq_ok_iff.2 ⟨hb, rfl⟩
    simp [addOutcome, addLatency, hb']

/-! ## Merging -/

/-- The requests of two entries together, whatever the sums come to. -/
def append (a b : EntryStats) (totalTime : Duration) : EntryStats where
  requests := a.requests + b.requests
  failures := a.failures + b.failures
  totalTime := totalTime
  minTime := shorterOf a.minTime b.minTime
  maxTime := a.maxTime.max b.maxTime
  totalBytes := a.totalBytes + b.totalBytes
  latencies := a.latencies.addAll b.latencies
  statusCodes := a.statusCodes.addAll b.statusCodes
  failureReasons := a.failureReasons.addAll b.failureReasons

/-- Entries merge if the sums of both stay in their ranges, and only then. -/
theorem merge_eq_ok_iff {a b c : EntryStats} :
    a.merge b = .ok c ↔
      (a.requests + b.requests < countLimit ∧ a.failures + b.failures < countLimit ∧
        a.totalBytes + b.totalBytes < countLimit) ∧
      ∃ t : Duration, t.nanos = a.totalTime.nanos + b.totalTime.nanos ∧ c = a.append b t := by
  unfold merge
  constructor
  · intro h
    rcases hr : addCounts a.requests b.requests with _ | r
    · rw [hr] at h; cases h
    rcases hf : addCounts a.failures b.failures with _ | f
    · rw [hr, hf] at h; cases h
    rcases ht : addDurations a.totalTime b.totalTime with _ | t
    · rw [hr, hf, ht] at h; cases h
    rcases hb : addCounts a.totalBytes b.totalBytes with _ | n
    · rw [hr, hf, ht, hb] at h; cases h
    rw [hr, hf, ht, hb] at h
    obtain ⟨hr', rfl⟩ := addCounts_eq_ok_iff.1 hr
    obtain ⟨hf', rfl⟩ := addCounts_eq_ok_iff.1 hf
    obtain ⟨hb', rfl⟩ := addCounts_eq_ok_iff.1 hb
    cases h
    exact ⟨⟨hr', hf', hb'⟩, t, addDurations_eq_ok_iff.1 ht, rfl⟩
  · rintro ⟨⟨hr, hf, hb⟩, t, ht, rfl⟩
    rw [addCounts_eq_ok_iff.2 ⟨hr, rfl⟩, addCounts_eq_ok_iff.2 ⟨hf, rfl⟩,
      addCounts_eq_ok_iff.2 ⟨hb, rfl⟩, addDurations_eq_ok_iff.2 ht]
    rfl

namespace Describes
variable {a b e e' : EntryStats} {xs ys : List Recording} {x : Recording}

/-- **Recording a request adds it to the list.** -/
theorem record (h : e.Describes xs) (hr : e.record x.latency x.outcome = (e', none)) :
    e'.Describes (xs ++ [x]) := by
  obtain ⟨t, ht, rfl⟩ := record_eq_plus hr
  refine ⟨?_, ?_, ?_, h.minTime.append (isShortest_singleton x),
    h.maxTime.append (isLongest_singleton x), ?_, ?_, ?_, ?_⟩
  · simp [plus, h.requests]
  · simp [plus, h.failures, List.countP_cons]
  · simp [plus, ht, h.totalTime]
  · simp [plus, h.totalBytes]
  · simpa [plus] using h.latencies.addCount x.bucket one_pos
  · cases hs : x.status? with
    | none => simpa [plus, hs] using h.statusCodes
    | some code => simpa [plus, hs] using h.statusCodes.addCount code one_pos
  · cases hs : x.reason? with
    | none => simpa [plus, hs] using h.failureReasons
    | some reason => simpa [plus, hs] using h.failureReasons.addCount reason one_pos

/-- A request is recorded without an overflow if the sums over the list with it stay in their
    ranges. -/
theorem record_inRange (h : e.Describes xs) (hx : InRange (xs ++ [x])) :
    (e.record x.latency x.outcome).2 = none := by
  obtain ⟨h1, h2, h3⟩ := hx
  simp only [List.map_append, List.sum_append, List.length_append, List.map_cons, List.map_nil,
    List.sum_singleton, List.length_singleton] at h1 h2 h3
  exact record_snd_eq_none (by rwa [h.requests]) (by rwa [h.totalTime]) (by rwa [h.totalBytes])

/-- **Merging two entries appends their lists.** -/
theorem merge {c : EntryStats} (ha : a.Describes xs) (hb : b.Describes ys)
    (hc : a.merge b = .ok c) : c.Describes (xs ++ ys) := by
  obtain ⟨-, t, ht, rfl⟩ := merge_eq_ok_iff.1 hc
  refine ⟨?_, ?_, ?_, ha.minTime.append hb.minTime, ha.maxTime.append hb.maxTime, ?_, ?_, ?_, ?_⟩
  · simp [append, ha.requests, hb.requests]
  · simp [append, ha.failures, hb.failures]
  · simp [append, ht, ha.totalTime, hb.totalTime]
  · simp [append, ha.totalBytes, hb.totalBytes]
  · simpa [append] using ha.latencies.addAll hb.latencies
  · simpa [append] using ha.statusCodes.addAll hb.statusCodes
  · simpa [append] using ha.failureReasons.addAll hb.failureReasons

/-- Entries merge if the sums over both lists stay in their ranges. -/
theorem merge_inRange (ha : a.Describes xs) (hb : b.Describes ys) (h : InRange (xs ++ ys)) :
    ∃ c, a.merge b = .ok c := by
  obtain ⟨h1, h2, h3⟩ := h
  simp only [List.map_append, List.sum_append, List.length_append] at h1 h2 h3
  have hf : a.failures + b.failures ≤ xs.length + ys.length := by
    rw [ha.failures, hb.failures]; exact Nat.add_le_add List.countP_le_length List.countP_le_length
  have ht : a.totalTime.nanos + b.totalTime.nanos < Duration.limit := by
    rwa [ha.totalTime, hb.totalTime]
  exact ⟨_, merge_eq_ok_iff.2 ⟨⟨by rwa [ha.requests, hb.requests], by omega,
    by rwa [ha.totalBytes, hb.totalBytes]⟩, ⟨_, ht⟩, rfl, rfl⟩⟩

end Describes

end EntryStats

end LoadSwarm
