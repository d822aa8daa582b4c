/-
  Runs as sequences of actions.

  * `Action`: a task takes its turn, the stop is triggered from outside, or time
    passes.
  * `SwarmRun.act`: time passes only while every task waits, and no further than to
    the next time that one of them waits for.
  * `SwarmRun.run`: any sequence of actions is a run; which one it is, is up to the
    order in which tasks take their turns.
  * `Swarm`: settings that can be run, and the latch that all their runs share.
-/
import LoadSwarm.Swarm.Task

namespace LoadSwarm

/-- A task of a run. -/
inductive TaskName where
  | stage
  | timer
  | progress
  | user (i : Nat)
  deriving DecidableEq, Repr

/-- Something that moves a run on. -/
inductive Action where
  /-- a task takes its turn; `first n` decides between two things that are both ready -/
  | poll (task : TaskName) (first : Nat → Bool)
  | trigger (reason : String)
  | advance (time : Nat)

namespace SwarmRun

variable {β : Type} [Behavior β]

/-- Whether the run itself could go on. -/
def stageReady (s : SwarmRun β) : Bool :=
  match s.stage with
  | .spawning _ => true
  | .pausing _ due => s.isStopping || due ≤ s.now
  | .joining => s.isStopping || !s.unheard.isEmpty || s.allHeard
  | .draining => !s.unheard.isEmpty || s.allHeard
  | .returned _ _ => false

/-- Whether a background task with a time could go on. -/
def backgroundReady (s : SwarmRun β) (due : Option Nat) : Bool :=
  match due with
  | some due => s.isStopping || due ≤ s.now
  | none => false

/-- The time of the next line of progress. -/
def progressTime (s : SwarmRun β) : Option Nat :=
  match s.progress, s.settings.statsInterval with
  | some n, some interval => some (s.progressDue n interval)
  | _, _ => none

/-- Whether a task could go on. -/
def isReady (s : SwarmRun β) : TaskName → Bool
  | .stage => s.stageReady
  | .timer => s.backgroundReady s.timer
  | .progress => s.backgroundReady s.progressTime
  | .user i =>
    match s.users[i]? with
    | some t => s.canResume t
    | none => false

/-- Whether every task waits. -/
def isIdle (s : SwarmRun β) : Bool :=
  !s.stageReady && !s.backgroundReady s.timer && !s.backgroundReady s.progressTime &&
    s.users.all fun t => !s.canResume t

/-- The times that the tasks wait for. -/
def dues (s : SwarmRun β) : List Nat :=
  let stage := match s.stage with
    | .pausing _ due => [due]
    | _ => []
  let users := s.users.filterMap fun t =>
    match t.phase with
    | .requesting _ _ _ due _ | .waiting due => some due
    | _ => none
  stage ++ s.timer.toList ++ s.progressTime.toList ++ users

/-- How often a task goes on in one turn. -/
def turnLength : Nat := 128

/-- A task takes its turn. -/
def poll (w : Surroundings β) (task : TaskName) (first : Nat → Bool) (s : SwarmRun β) : SwarmRun β :=
  match task with
  | .stage => pollStage w first s
  | .timer => pollTimer (first 0) s
  | .progress => pollProgress w first turnLength s
  | .user i => if s.isReady (.user i) then pollUser w first i turnLength s else s

/-- Time passes up to a time, if every task waits, and no further than one of them waits. -/
def advance (s : SwarmRun β) (time : Nat) : SwarmRun β :=
  if s.isIdle then { s with now := max s.now ((s.dues.foldl min time)) } else s

/-- An action. -/
def act (w : Surroundings β) (s : SwarmRun β) : Action → SwarmRun β
  | .poll task first => poll w task first s
  | .trigger reason => s.trigger reason
  | .advance time => s.advance time

/-- Actions in turn. -/
def run (w : Surroundings β) (s : SwarmRun β) (actions : List Action) : SwarmRun β :=
  actions.foldl (act w) s

end SwarmRun

/-! ## Swarms -/

/-- Settings that can be run, and a latch that stops all their runs. -/
structure Swarm where
  settings : SwarmSettings
  latch : Latch := {}
  deriving DecidableEq

namespace Swarm

/-- A swarm with some settings, unless they cannot be run. -/
def new (settings : SwarmSettings) : Except SettingsError Swarm :=
  match settings.validate with
  | .ok () => .ok { settings := settings }
  | .error e => .error e

/-- A run that begins at some time. -/
def begin {β : Type} (s : Swarm) (w : Surroundings β) (now : Nat) : SwarmRun β :=
  .begin w s.settings s.latch now

/-- Triggers the stop of all runs; the first trigger is reported. -/
def trigger (s : Swarm) (reason : String) : Swarm × Option SwarmEvent :=
  ({ s with latch := s.latch.trigger reason }, (s.latch.announced? reason).map .stopping)

/-- The swarm with the latch that a run has left. -/
def after {β : Type} (s : Swarm) (run : SwarmRun β) : Swarm := { s with latch := run.latch }

end Swarm

end LoadSwarm
