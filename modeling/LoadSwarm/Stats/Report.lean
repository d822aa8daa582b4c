/-
  Reports on the requests of a run.

  * `RequestStats`: the entries of all names, in the order of the names.
  * `RequestStats.snapshot`: the figures of every entry and of all together.
  * `StatsReport.table`: a table of the entries with the total below, and the
    reasons of failures.
  * `StatsReport.json`: everything as JSON.
-/
import LoadSwarm.Json.Value
import LoadSwarm.Stats.Entry
import LoadSwarm.Time.Timestamp

namespace LoadSwarm

/-! ## Figures -/

/-- The figures of an entry, or of all together. -/
structure EntryReport where
  method : String := "GET"
  name : String := ""
  requests : Nat := 0
  failures : Nat := 0
  requestsPerSecond : Binary64 := Binary64.zero
  avgMs : Binary64 := Binary64.zero
  minMs : Binary64 := Binary64.zero
  maxMs : Binary64 := Binary64.zero
  p50Ms : Nat := 0
  p95Ms : Nat := 0
  p99Ms : Nat := 0
  avgBytes : Binary64 := Binary64.zero
  statusCodes : SortedMap Nat Nat := {}
  failureReasons : SortedMap String Nat := {}
  deriving DecidableEq

/-- A number of hundredths. -/
def hundredths (n : Nat) : Binary64 := Binary64.ofFraction false n 100

/-- A duration in milliseconds. -/
def Duration.toMillis (d : Duration) : Binary64 := d.toFloat * Binary64.ofNat 1000

namespace EntryStats

/-- A sum divided by the number of requests, zero without any. -/
def perRequest (e : EntryStats) (sum : Binary64) : Binary64 :=
  if e.requests = 0 then Binary64.zero else sum / Binary64.ofNat e.requests

/-- The figures of an entry after some time. -/
def report (e : EntryStats) (method name : String) (elapsed : Duration) : EntryReport :=
  let seconds := elapsed.toFloat
  { method := method
    name := name
    requests := e.requests
    failures := e.failures
    requestsPerSecond :=
      if Binary64.zero < seconds then Binary64.ofNat e.requests / seconds else Binary64.zero
    avgMs := e.perRequest e.totalTime.toMillis
    minMs := (e.minTime.getD Duration.zero).toMillis
    maxMs := e.maxTime.toMillis
    p50Ms := e.percentile (hundredths 50)
    p95Ms := e.percentile (hundredths 95)
    p99Ms := e.percentile (hundredths 99)
    avgBytes := e.perRequest (Binary64.ofNat e.totalBytes)
    statusCodes := e.statusCodes
    failureReasons := e.failureReasons }

end EntryStats

/-- The part of the requests that failed. -/
def EntryReport.failureRatio (r : EntryReport) : Binary64 :=
  if r.requests = 0 then Binary64.zero
  else Binary64.ofNat r.failures / Binary64.ofNat r.requests

/-- The figures of a run. -/
structure StatsReport where
  startedAt : Timestamp
  elapsedSecs : Binary64
  entries : List EntryReport
  total : EntryReport
  deriving DecidableEq

/-! ## Recording -/

/-- The entries of all names. -/
structure RequestStats where
  entries : SortedMap String EntryStats := {}
  deriving DecidableEq

namespace RequestStats

/-- With one more request under its name. -/
def record (s : RequestStats) (name : String) (latency : Duration) (outcome : Outcome) :
    RequestStats × Option StatsOverflow :=
  let result := ((s.entries.get? name).getD {}).record latency outcome
  (⟨s.entries.alter name fun _ => result.1⟩, result.2)

/-- All entries together. -/
def total (s : RequestStats) : Except StatsOverflow EntryStats :=
  s.entries.toList.foldlM (fun acc e => acc.merge e.2) {}

/-- The name that stands for all names. -/
def totalName : String := "Aggregated"

/-- The figures after some time since the start. -/
def snapshot (s : RequestStats) (startedAt : Timestamp) (elapsed : Duration) :
    Except StatsOverflow StatsReport := do
  let total ← s.total
  return { startedAt := startedAt
           elapsedSecs := elapsed.toFloat
           entries := s.entries.toList.map fun e => e.2.report "GET" e.1 elapsed
           total := total.report "" totalName elapsed }

end RequestStats

/-! ## The table -/

/-- A text padded on its right. -/
def padRight (width : Nat) (s : String) : String := s.pushn ' ' (width - s.length)

/-- A text padded on its left. -/
def padLeft (width : Nat) (s : String) : String := "".pushn ' ' (width - s.length) ++ s

namespace StatsReport

/-- A line of the table, from its ten cells. -/
def tableLine (method name requests failures avg least most p95 p99 rate : String) : String :=
  padRight 7 method ++ " " ++ padRight 52 name ++ " " ++ padLeft 8 requests ++ " " ++
    padLeft 14 failures ++ " | " ++ padLeft 8 avg ++ " " ++ padLeft 8 least ++ " " ++
    padLeft 8 most ++ " " ++ padLeft 6 p95 ++ " " ++ padLeft 6 p99 ++ " | " ++ padLeft 8 rate ++ "\n"

/-- The line above and below the entries. -/
def rule : String := "".pushn '-' 118 ++ "\n"

/-- The line of an entry. -/
def entryLine (r : EntryReport) : String :=
  let percent := (r.failureRatio * Binary64.ofNat 100).renderFixed 2
  tableLine r.method r.name (toString r.requests) (toString r.failures ++ "(" ++ percent ++ "%)")
    (r.avgMs.renderFixed 1) (r.minMs.renderFixed 1) (r.maxMs.renderFixed 1) (toString r.p95Ms)
    (toString r.p99Ms) (r.requestsPerSecond.renderFixed 2)

/-- The reasons of failures with their numbers, if there are any. -/
def failureLines (reasons : SortedMap String Nat) : String :=
  if reasons.isEmpty then ""
  else
    "\nFailures:\n" ++
      String.join (reasons.toList.map fun r => padLeft 8 (toString r.2) ++ "  " ++ r.1 ++ "\n")

/-- The report as a table. -/
def table (r : StatsReport) : String :=
  tableLine "Type" "Name" "# reqs" "# fails" "Avg" "Min" "Max" "p95" "p99" "req/s" ++ rule ++
    String.join (r.entries.map entryLine) ++ rule ++ entryLine r.total ++
    failureLines r.total.failureReasons ++ "Elapsed: " ++ r.elapsedSecs.renderFixed 1 ++ "s"

end StatsReport

/-! ## JSON -/

/-- The figures under their names. -/
def EntryReport.members (r : EntryReport) : List (String × JsonValue) :=
  [("method", .text r.method),
   ("name", .text r.name),
   ("requests", .nat r.requests),
   ("failures", .nat r.failures),
   ("requests_per_second", .float r.requestsPerSecond),
   ("avg_ms", .float r.avgMs),
   ("min_ms", .float r.minMs),
   ("max_ms", .float r.maxMs),
   ("p50_ms", .nat r.p50Ms),
   ("p95_ms", .nat r.p95Ms),
   ("p99_ms", .nat r.p99Ms),
   ("avg_bytes", .float r.avgBytes),
   ("status_codes", .record (r.statusCodes.toList.map fun e => (toString e.1, .nat e.2))),
   ("failure_reasons", .record (r.failureReasons.toList.map fun e => (e.1, .nat e.2)))]

/-- The figures as JSON. -/
def EntryReport.json (r : EntryReport) : JsonValue := .record r.members

/-- The report as JSON. -/
def StatsReport.json (r : StatsReport) : JsonValue :=
  .record
    [("started_at", .text r.startedAt.text),
     ("elapsed_secs", .float r.elapsedSecs),
     ("entries", .list (r.entries.map EntryReport.json)),
     ("total", r.total.json)]

end LoadSwarm
