/-
  The settings of a swarm.

  * `SwarmSettings.ofShape`: the settings that a configured load shape asks for.
  * `SwarmSettings.validate`: the first problem of settings that cannot be run.
  * `SwarmSettings.spawnInterval`: the time between the starts of two users.
-/
import LoadSwarm.Swarm.WaitTime

namespace LoadSwarm

/-- What a swarm runs with. -/
structure SwarmSettings where
  users : Nat := 1
  /-- users started per second -/
  spawnRate : Binary64 := Binary64.ofNat 1
  /-- measured from the start of the run -/
  runTime : Option Duration := none
  waitTime : WaitTime := .none
  /-- the time between two lines of progress; no lines if there is none -/
  statsInterval : Option Duration := some (Duration.ofSeconds 10)
  deriving DecidableEq

/-- Why settings cannot be run. -/
inductive SettingsError where
  | noUsers
  | badRate (rate : Binary64)
  | noRunTime
  | noStatsInterval
  deriving DecidableEq

/-- The wording of the reason. -/
def SettingsError.message (e : SettingsError) : String :=
  "Invalid swarm settings: " ++
    match e with
    | noUsers => "at least one user is required"
    | badRate rate => "spawn rate must be a positive number, got " ++ rate.plain
    | noRunTime => "run time must be greater than zero"
    | noStatsInterval => "stats interval must be greater than zero"

namespace SwarmSettings

/-- The settings of a configured load shape. -/
def ofShape (s : LoadShape) : SwarmSettings :=
  { users := s.users.toNat
    spawnRate := s.spawnRate
    runTime := s.runTime
    waitTime := WaitTime.ofPacing s.pacing }

/-- There are users, they start at a finite positive rate, and times that are set are some
    time. -/
def validate (s : SwarmSettings) : Except SettingsError Unit :=
  if s.users = 0 then .error .noUsers
  else if !(s.spawnRate.isFinite && Binary64.zero.lt s.spawnRate) then .error (.badRate s.spawnRate)
  else if s.runTime = some Duration.zero then .error .noRunTime
  else if s.statsInterval = some Duration.zero then .error .noStatsInterval
  else .ok ()

/-- The time between the starts of two users; the longest duration where the rate is too
    small for any. -/
def spawnInterval (s : SwarmSettings) : Duration :=
  (Duration.ofFloat? (Binary64.ofNat 1 / s.spawnRate)).getD Duration.longest

end SwarmSettings

end LoadSwarm
