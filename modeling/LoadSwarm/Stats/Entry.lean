/-
  What is kept of the requests of one name.

  * `EntryStats.record`: adds a request.  A sum that leaves its range stops it,
    and what was added before that stays.
  * `EntryStats.merge`: the requests of two entries together.
  * `latencyBucket`: milliseconds, above 100 rounded to two significant digits.
  * `EntryStats.percentile`: the least bucket that covers a part of the requests.
-/
import LoadSwarm.Http.Outcome
import LoadSwarm.Stats.SortedMap
import LoadSwarm.Time.Duration

namespace LoadSwarm

/-- A sum that leaves its range. -/
inductive StatsOverflow where
  | count
  | duration
  deriving DecidableEq, Repr

/-- The wording of an overflow. -/
def StatsOverflow.message : StatsOverflow → String
  | count => "attempt to add with overflow"
  | duration => "overflow when adding durations"

/-- Counts stay below this number. -/
def countLimit : Nat := 18446744073709551616

/-- The sum of two counts. -/
def addCounts (a b : Nat) : Except StatsOverflow Nat :=
  if a + b < countLimit then .ok (a + b) else .error .count

/-- The sum of two durations. -/
def addDurations (a b : Duration) : Except StatsOverflow Duration :=
  match a.add? b with
  | some d => .ok d
  | none => .error .duration

/-- A latency in milliseconds, rounded to two significant digits from 100 on. -/
def latencyBucket (latency : Duration) : Nat :=
  let ms := latency.toFloat * Binary64.ofNat 1000
  let step :=
    if ms < Binary64.ofNat 100 then Binary64.ofNat 1
    else if ms < Binary64.ofNat 1000 then Binary64.ofNat 10
    else if ms < Binary64.ofNat 10000 then Binary64.ofNat 100
    else Binary64.ofNat 1000
  ((ms / step).round * step).toNatClamped 64

/-- What is kept of some requests. -/
structure EntryStats where
  requests : Nat := 0
  failures : Nat := 0
  totalTime : Duration := Duration.zero
  minTime : Option Duration := none
  maxTime : Duration := Duration.zero
  totalBytes : Nat := 0
  /-- how many requests took how many milliseconds -/
  latencies : SortedMap Nat Nat := {}
  statusCodes : SortedMap Nat Nat := {}
  failureReasons : SortedMap String Nat := {}
  deriving DecidableEq

/-- The reason that a failed request is counted under. -/
def failureReason : Outcome → Option String
  | .ok r => if r.isFailure then some ("HTTP " ++ toString r.status.toNat) else none
  | .error e => some e.kind

namespace EntryStats

/-- With the latency of a request that is counted already. -/
def addLatency (e : EntryStats) (totalTime latency : Duration) : EntryStats :=
  { e with
    totalTime := totalTime
    maxTime := e.maxTime.max latency
    minTime := some (match e.minTime with | some m => m.min latency | none => latency)
    latencies := e.latencies.addCount (latencyBucket latency) 1 }

/-- With a failure, if the outcome is one. -/
def addFailure (e : EntryStats) (outcome : Outcome) : EntryStats :=
  match failureReason outcome with
  | some reason =>
    { e with failures := e.failures + 1, failureReasons := e.failureReasons.addCount reason 1 }
  | none => e

/-- With the outcome of a request that is counted already. -/
def addOutcome (e : EntryStats) (outcome : Outcome) : EntryStats × Option StatsOverflow :=
  match outcome with
  | .ok r =>
    match addCounts e.totalBytes r.bytes.toNat with
    | .error o => (e, some o)
    | .ok bytes =>
      ({ e with totalBytes := bytes, statusCodes := e.statusCodes.addCount r.status.toNat 1 }.addFailure
        outcome, none)
  | .error _ => (e.addFailure outcome, none)

/-- With one more request. -/
def record (e : EntryStats) (latency : Duration) (outcome : Outcome) :
    EntryStats × Option StatsOverflow :=
  match addCounts e.requests 1 with
  | .error o => (e, some o)
  | .ok requests =>
    let e := { e with requests := requests }
    match addDurations e.totalTime latency with
    | .error o => (e, some o)
    | .ok totalTime => (e.addLatency totalTime latency).addOutcome outcome

/-- The requests of two entries together. -/
def merge (a b : EntryStats) : Except StatsOverflow EntryStats := do
  let requests ← addCounts a.requests b.requests
  let failures ← addCounts a.failures b.failures
  let totalTime ← addDurations a.totalTime b.totalTime
  let totalBytes ← addCounts a.totalBytes b.totalBytes
  return { requests := requests
           failures := failures
           totalTime := totalTime
           minTime := match a.minTime, b.minTime with
             | some x, some y => some (x.min y)
             | x, y => x.or y
           maxTime := a.maxTime.max b.maxTime
           totalBytes := totalBytes
           latencies := a.latencies.addAll b.latencies
           statusCodes := a.statusCodes.addAll b.statusCodes
           failureReasons := a.failureReasons.addAll b.failureReasons }

/-- The bucket at which the requests so far, `seen` before the first one, reach a number; the
    last bucket if they do not. -/
def bucketReaching (wanted : Nat) : Nat → Nat → List (Nat × Nat) → Nat
  | _, last, [] => last
  | seen, _, (bucket, n) :: rest =>
    if wanted ≤ seen + n then bucket else bucketReaching wanted (seen + n) bucket rest

/-- How many of `n` requests a part of them is, at least one. -/
def rankOf (n : Nat) (part : Binary64) : Nat :=
  ((Binary64.ofNat n * part).ceil.max (Binary64.ofNat 1)).toNatClamped 64

/-- The least bucket that covers a part of the requests. -/
def percentile (e : EntryStats) (part : Binary64) : Nat :=
  if e.requests = 0 then 0
  else bucketReaching (rankOf e.requests part) 0 0 e.latencies.toList

end EntryStats

end LoadSwarm
