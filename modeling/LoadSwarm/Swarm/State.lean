/-
  The state of a run of a swarm, on a clock of whole milliseconds.

  * `UserTask`: a user and what it is waiting for.
  * `Stage`: what the run itself is waiting for.
  * `SwarmRun`: both, with the background tasks, the latch, and everything that
    happened so far.
  * `SwarmRun.begin`: a run before its first step.  The latch is that of the swarm,
    which outlives its runs.
-/
import LoadSwarm.Swarm.Clock
import LoadSwarm.Swarm.Event
import LoadSwarm.Swarm.Latch
import LoadSwarm.Users.Behavior

namespace LoadSwarm

/-! ## Milliseconds -/

/-- Some milliseconds as a duration, as far as durations go. -/
def Duration.ofMillis (ms : Nat) : Duration := (Duration.ofNanos? (ms * nanosPerMilli)).getD longest

/-! ## Tasks -/

/-- How a user ends. -/
inductive UserExit where
  | stopped (iterations : Nat)
  | failed (e : UserError)
  | crashed (message : String)
  deriving DecidableEq, Repr

/-- What a user is waiting for. -/
inductive UserPhase where
  /-- for its first turn -/
  | starting
  /-- for its next turn, with nothing else in its way -/
  | yielding
  /-- for the answer to the request with a number, which began at `since`, or for the stop -/
  | requesting (number : Nat) (path : String) (since due : Nat) (outcome : Outcome)
  /-- for the time of its next iteration, or for the stop -/
  | waiting (due : Nat)
  /-- for nothing more -/
  | ended (exit : UserExit)

/-- Whether only the turns of others are in the way. -/
def UserPhase.isYielding : UserPhase → Bool
  | yielding => true
  | _ => false

/-- A user at work. -/
structure UserTask (β : Type) where
  behavior : β
  phase : UserPhase := .starting
  /-- the iterations that ended well -/
  iterations : Nat := 0

/-- How a user has ended. -/
def UserTask.exit? {β : Type} (t : UserTask β) : Option UserExit :=
  match t.phase with
  | .ended exit => some exit
  | _ => none

/-- Why a run has no report. -/
inductive RunFailure where
  | allUsersFailed (users : Nat) (first : UserError)
  | crashed (message : String)
  deriving DecidableEq, Repr

/-- The wording of the reason. -/
def RunFailure.message : RunFailure → String
  | allUsersFailed users first =>
    "All " ++ toString users ++ " users stopped with errors, first: " ++ first.message
  | crashed message => message

/-- What a run itself is waiting for. -/
inductive Stage where
  /-- for its next turn, in which it makes the user with a number -/
  | spawning (next : Nat)
  /-- for the time of the next user, or for the stop -/
  | pausing (next due : Nat)
  /-- for the end of a user, or for the stop -/
  | joining
  /-- for the ends of the users that are left -/
  | draining
  /-- for nothing more, since a time -/
  | returned (time : Nat) (result : Except RunFailure StatsReport)

/-! ## The run -/

/-- A request that was started. -/
structure StartedRequest where
  time : Nat
  user : Nat
  path : String
  deriving DecidableEq, Repr

/-- An iteration that ended, by itself and not by the stop. -/
structure FinishedIteration where
  user : Nat
  start : Nat
  finish : Nat
  /-- the number of its request, if it came to one -/
  request : Option Nat
  failure : Option UserError
  deriving DecidableEq, Repr

/-- What the run has heard of ended users. -/
structure Tally where
  heard : Nat := 0
  iterations : Nat := 0
  /-- in the order in which they were heard -/
  failures : List UserError := []
  deriving DecidableEq, Repr

/-- A run of a swarm. -/
structure SwarmRun (β : Type) where
  settings : SwarmSettings
  clock : Clock
  start : Nat
  now : Nat
  latch : Latch
  stage : Stage := .spawning 0
  /-- the time at which the run stops itself, until it is over -/
  timer : Option Nat
  /-- the number of the next line of progress, until it is over -/
  progress : Option Nat
  users : List (UserTask β) := []
  /-- users that ended and of which the run has not heard, in the order of their ends -/
  unheard : List Nat := []
  tally : Tally := {}
  stats : RequestStats := {}
  /-- how many waits were chosen -/
  waits : Nat := 0
  /-- when each user was made, the last one first -/
  made : List (Nat × Nat) := []
  /-- the last one first -/
  requests : List StartedRequest := []
  /-- the last one first -/
  iterations : List FinishedIteration := []
  /-- the last one first -/
  events : List (Nat × SwarmEvent) := []

/-- The answer of a client to a request. -/
structure Reply where
  outcome : Outcome
  /-- the milliseconds that it takes -/
  latency : Nat := 0
  /-- the reason for which the request triggers the stop as it starts -/
  trigger : Option String := none

/-- What a run meets with. -/
structure Surroundings (β : Type) where
  /-- the user with a number -/
  make : Nat → β
  /-- the answer to the request with a number -/
  client : Nat → String → Reply
  /-- the random word for the wait with a number -/
  word : Nat → UInt64 := fun _ => 0
  /-- the moment at which the clock of the run began -/
  epoch : Timestamp := ⟨0, 0⟩
  clock : Clock := .exact

namespace SwarmRun

variable {β : Type}

/-- A run that begins at some time, with a latch that may have been triggered before. -/
def begin (w : Surroundings β) (settings : SwarmSettings) (latch : Latch) (now : Nat) :
    SwarmRun β :=
  { settings := settings
    clock := w.clock
    start := now
    now := now
    latch := latch
    timer := settings.runTime.map fun d => now + w.clock.sleep d
    progress := settings.statsInterval.map fun _ => 1
    events := [(now, .starting settings)] }

/-- Whether the stop was triggered. -/
def isStopping (s : SwarmRun β) : Bool := s.latch.isTriggered

/-- The result, once the run has returned. -/
def result? (s : SwarmRun β) : Option (Except RunFailure StatsReport) :=
  match s.stage with
  | .returned _ r => some r
  | _ => none

/-- With an event that happens now. -/
def note (s : SwarmRun β) (e : SwarmEvent) : SwarmRun β := { s with events := (s.now, e) :: s.events }

/-- Triggers the stop; the first trigger is reported. -/
def trigger (s : SwarmRun β) (reason : String) : SwarmRun β :=
  match s.latch.announced? reason with
  | some r => { s with latch := s.latch.trigger reason }.note (.stopping r)
  | none => s

/-- The time of the line of progress with a number. -/
def progressDue (s : SwarmRun β) (n : Nat) (interval : Duration) : Nat :=
  s.start + s.clock.tick interval n

/-- The figures of the requests up to now. -/
def snapshot (s : SwarmRun β) (w : Surroundings β) : Except StatsOverflow StatsReport :=
  s.stats.snapshot w.epoch (Duration.ofMillis (s.now - s.start))

end SwarmRun

end LoadSwarm
