/-
  What a swarm reports while it runs.

  * `SwarmEvent`: one thing that happened.
  * `SwarmEvent.record`: how it is logged.
-/
import LoadSwarm.Log.Record
import LoadSwarm.Stats.Report
import LoadSwarm.Swarm.Settings
import LoadSwarm.Users.Identifiers

namespace LoadSwarm

/-- One thing that happened in a swarm. -/
inductive SwarmEvent where
  | starting (settings : SwarmSettings)
  | userStarted (user : Nat) (behavior : String)
  | userFailed (user : Nat) (e : UserError)
  | userStopped (user iterations : Nat)
  /-- a user ended by a fault of its own task -/
  | userCrashed (task : Nat) (message : String)
  | spawned (users : Nat)
  | progress (total : EntryReport)
  | stopping (reason : String)
  | stopped (iterations requests failures : Nat)
  deriving DecidableEq

/-- The text of a duration that may be missing. -/
def optionalText : Option Duration → String
  | none => "None"
  | some d => "Some(" ++ d.text ++ ")"

namespace SwarmEvent

/-- Where most events come from. -/
def origin : String := "clusterload_core::swarm"

/-- Where the first trigger of a latch is reported. -/
def stopOrigin : String := "clusterload_core::shutdown"

/-- The report on a task that ended by a fault of its own. -/
def crashText (task message : String) : String :=
  "User task ended abnormally: task " ++ task ++ " panicked with message " ++ Text.quoted message

/-- How an event is logged. -/
def record : SwarmEvent → LogRecord
  | starting s =>
    { level := .info
      origin := origin
      message := "Starting swarm"
      values :=
        [("users", .count s.users),
         ("spawn_rate", .float s.spawnRate),
         ("run_time", .shown (optionalText s.runTime)),
         ("wait_time", .shown s.waitTime.text)] }
  | userStarted user behavior =>
    { level := .debug
      origin := origin
      message := "User started"
      values := [("user", .count user), ("behavior", .text behavior)] }
  | userFailed user e =>
    { level := .error
      origin := origin
      message := "User stopped: " ++ e.message
      values := [("user", .count user)] }
  | userStopped user iterations =>
    { level := .debug
      origin := origin
      message := "User stopped"
      values := [("user", .count user), ("iterations", .count iterations)] }
  | userCrashed task message =>
    { level := .warn
      origin := origin
      message := crashText (toString task) message }
  | spawned users =>
    { level := .info
      origin := origin
      message := "All " ++ toString users ++ " users spawned" }
  | progress total =>
    { level := .info
      origin := origin
      message := "Progress"
      values :=
        [("requests", .count total.requests),
         ("failures", .count total.failures),
         ("rps", .float total.requestsPerSecond),
         ("p95_ms", .count total.p95Ms)] }
  | stopping reason =>
    { level := .info, origin := stopOrigin, message := "Stopping swarm: " ++ reason }
  | stopped iterations requests failures =>
    { level := .info
      origin := origin
      message := "Swarm stopped"
      values :=
        [("iterations", .count iterations),
         ("requests", .count requests),
         ("failures", .count failures)] }

end SwarmEvent

end LoadSwarm
