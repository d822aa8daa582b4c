/-
  The steps of the tasks of a run.

  * `Turn`: which of two awaited things goes on, when both could.
  * `SwarmRun.resumeUser`: a user goes on to the next thing that it waits for.  The
    stop comes before its iterations, but a wait that is over may come before the
    stop.
  * `SwarmRun.stageStep`: the run itself makes a user, waits, or hears of an end.
  * `SwarmRun.pollUser`, `SwarmRun.pollStage`, `SwarmRun.pollTimer`,
    `SwarmRun.pollProgress`: a task goes on until it has to wait.
-/
import LoadSwarm.Swarm.State

namespace LoadSwarm

/-- Which of two things goes on, if one is ready; `first` decides if both are. -/
def Turn.of (first left right : Bool) : Option Bool :=
  match left, right with
  | true, true => some first
  | true, false => some true
  | false, true => some false
  | false, false => none

namespace SwarmRun

variable {β : Type} [Behavior β]

/-! ## Users -/

/-- With a changed user. -/
def setUser (s : SwarmRun β) (i : Nat) (t : UserTask β) : SwarmRun β :=
  { s with users := s.users.set i t }

/-- With a user that has ended. -/
def endUser (s : SwarmRun β) (i : Nat) (t : UserTask β) (exit : UserExit) : SwarmRun β :=
  { s.setUser i { t with phase := .ended exit } with unheard := s.unheard ++ [i] }

/-- A user follows the stop. -/
def stopUser (s : SwarmRun β) (i : Nat) (t : UserTask β) : SwarmRun β :=
  (s.note (.userStopped i t.iterations)).endUser i t (.stopped t.iterations)

/-- A user has ended an iteration and waits for the next one. -/
def startWait (w : Surroundings β) (s : SwarmRun β) (i : Nat) (t : UserTask β) : SwarmRun β :=
  match s.settings.waitTime.next (w.word s.waits) with
  | .error e => s.endUser i t (.crashed e.message)
  | .ok none => s.setUser i { t with phase := .yielding }
  | .ok (some d) =>
    { s.setUser i { t with phase := .waiting (s.now + s.clock.sleep d) } with waits := s.waits + 1 }

/-- The answer to the request with a number, which began at `since`, is there: it is recorded, and
    the iteration has ended. -/
def finishRequest (w : Surroundings β) (s : SwarmRun β) (i : Nat) (t : UserTask β) (number : Nat)
    (path : String) (since : Nat) (outcome : Outcome) : SwarmRun β :=
  let (stats, overflow) := s.stats.record path (Duration.ofMillis (s.now - since)) outcome
  let s := { s with stats := stats }
  match overflow with
  | some o => s.endUser i t (.crashed o.message)
  | none =>
    startWait w { s with iterations := ⟨i, since, s.now, some number, none⟩ :: s.iterations } i
      { t with iterations := t.iterations + 1 }

/-- A user starts a request. -/
def startRequest (w : Surroundings β) (s : SwarmRun β) (i : Nat) (t : UserTask β) (path : String) :
    SwarmRun β :=
  let number := s.requests.length
  let reply := w.client number path
  let s := { s with requests := ⟨s.now, i, path⟩ :: s.requests }
  let s := match reply.trigger with
    | some reason => s.trigger reason
    | none => s
  if reply.latency = 0 then finishRequest w s i t number path s.now reply.outcome
  else
    s.setUser i
      { t with phase := .requesting number path s.now (s.now + reply.latency) reply.outcome }

/-- A user begins an iteration, unless the swarm stops. -/
def iterate (w : Surroundings β) (s : SwarmRun β) (i : Nat) (t : UserTask β) : SwarmRun β :=
  if s.isStopping then s.stopUser i t
  else
    let (move, behavior) := Behavior.next t.behavior
    let t := { t with behavior := behavior }
    match move with
    | .request path => startRequest w s i t path
    | .crash message => s.endUser i t (.crashed message)
    | .fail e =>
      { s.note (.userFailed i e) with
        iterations := ⟨i, s.now, s.now, none, some e⟩ :: s.iterations }.endUser i t (.failed e)

/-- Whether a user could go on. -/
def canResume (s : SwarmRun β) (t : UserTask β) : Bool :=
  match t.phase with
  | .starting | .yielding => true
  | .requesting _ _ _ due _ | .waiting due => s.isStopping || due ≤ s.now
  | .ended _ => false

/-- A user goes on to the next thing that it waits for. -/
def resumeUser (w : Surroundings β) (first : Bool) (s : SwarmRun β) (i : Nat) (t : UserTask β) :
    SwarmRun β :=
  match t.phase with
  | .starting => iterate w (s.note (.userStarted i (Behavior.name β))) i t
  | .yielding => iterate w s i t
  | .requesting number path since due outcome =>
    if s.isStopping then s.stopUser i t
    else if due ≤ s.now then finishRequest w s i t number path since outcome
    else s
  | .waiting due =>
    match Turn.of first (due ≤ s.now) s.isStopping with
    | some true => iterate w s i t
    | some false => s.stopUser i t
    | none => s
  | .ended _ => s

/-- Whether a user that has just gone on does so again in the same turn. -/
def keepsTurn (s : SwarmRun β) (t : UserTask β) : Bool :=
  !t.phase.isYielding && s.canResume t

/-- A user goes on until it has to wait, at most a number of times. -/
def pollUser (w : Surroundings β) (first : Nat → Bool) (i : Nat) : Nat → SwarmRun β → SwarmRun β
  | 0, s => s
  | n + 1, s =>
    match s.users[i]? with
    | none => s
    | some t =>
      let s := resumeUser w (first n) s i t
      match s.users[i]? with
      | some t => if s.keepsTurn t then pollUser w first i n s else s
      | none => s

/-! ## The run itself -/

/-- All users that will be made are made. -/
def endSpawning (s : SwarmRun β) : SwarmRun β :=
  { s.note (.spawned s.users.length) with stage := .joining }

/-- The user with a number is made; the next one follows after the spawn interval. -/
def spawn (w : Surroundings β) (s : SwarmRun β) (i : Nat) : SwarmRun β :=
  let interval := s.settings.spawnInterval
  { s with
    made := (s.now, i) :: s.made
    users := s.users ++ [{ behavior := w.make i }]
    stage :=
      if i + 1 < s.settings.users && interval ≠ Duration.zero then
        .pausing (i + 1) (s.now + s.clock.sleep interval)
      else .spawning (i + 1) }

/-- The run hears of the end of a user. -/
def hear (s : SwarmRun β) (i : Nat) (rest : List Nat) : SwarmRun β :=
  let s := { s with unheard := rest, tally := { s.tally with heard := s.tally.heard + 1 } }
  match (s.users[i]?).bind UserTask.exit? with
  | some (.stopped n) => { s with tally := { s.tally with iterations := s.tally.iterations + n } }
  | some (.failed e) => { s with tally := { s.tally with failures := s.tally.failures ++ [e] } }
  | some (.crashed message) => s.note (.userCrashed i message)
  | none => s

/-- Whether the run has heard of the ends of all users. -/
def allHeard (s : SwarmRun β) : Bool := s.tally.heard = s.users.length

/-- The reason for which a run stops that was not stopped. -/
def finishReason : String := "swarm finished"

/-- The run stops, if it was not stopped before, and waits for the users that are left. -/
def endJoining (s : SwarmRun β) : SwarmRun β := { s.trigger finishReason with stage := .draining }

/-- The result of a run with a report: there is none if every user failed. -/
def conclude (s : SwarmRun β) (report : StatsReport) : Except RunFailure StatsReport :=
  match s.tally.failures with
  | [] => .ok report
  | first :: _ =>
    if s.tally.failures.length = s.users.length then .error (.allUsersFailed s.users.length first)
    else .ok report

/-- The run returns; the background tasks are dropped. -/
def finish (w : Surroundings β) (s : SwarmRun β) : SwarmRun β :=
  let s := { s with timer := none, progress := none }
  match s.snapshot w with
  | .error o => { s with stage := .returned s.now (.error (.crashed o.message)) }
  | .ok report =>
    { s.note (.stopped s.tally.iterations report.total.requests report.total.failures) with
      stage := .returned s.now (s.conclude report) }

/-- One step of the run itself, if it need not wait. -/
def stageStep (w : Surroundings β) (first : Bool) (s : SwarmRun β) : Option (SwarmRun β) :=
  match s.stage with
  | .spawning i =>
    if i < s.settings.users && !s.isStopping then some (s.spawn w i) else some s.endSpawning
  | .pausing i due =>
    match Turn.of first (due ≤ s.now) s.isStopping with
    | some true => some { s with stage := .spawning i }
    | some false => some s.endSpawning
    | none => none
  | .joining =>
    match Turn.of first (!s.unheard.isEmpty || s.allHeard) s.isStopping with
    | some true =>
      match s.unheard with
      | i :: rest => some (s.hear i rest)
      | [] => some s.endJoining
    | some false => some s.endJoining
    | none => none
  | .draining =>
    match s.unheard with
    | i :: rest => some (s.hear i rest)
    | [] => if s.allHeard then some (s.finish w) else none
  | .returned _ _ => none

/-- More steps than the run itself can make before it has to wait. -/
def stageSteps (s : SwarmRun β) : Nat := s.settings.users + s.unheard.length + 5

/-- The run itself goes on until it has to wait, at most a number of steps. -/
def stageWalk (w : Surroundings β) (first : Nat → Bool) : Nat → SwarmRun β → SwarmRun β
  | 0, s => s
  | n + 1, s =>
    match stageStep w (first n) s with
    | some s => stageWalk w first n s
    | none => s

/-- The run itself goes on until it has to wait. -/
def pollStage (w : Surroundings β) (first : Nat → Bool) (s : SwarmRun β) : SwarmRun β :=
  stageWalk w first s.stageSteps s

/-! ## Background tasks -/

/-- The reason for which the timer stops a run. -/
def timerReason : String := "run time elapsed"

/-- The timer stops the run at its time, and is over when the run stops. -/
def pollTimer (first : Bool) (s : SwarmRun β) : SwarmRun β :=
  match s.timer with
  | none => s
  | some due =>
    match Turn.of first (due ≤ s.now) s.isStopping with
    | some true => { s.trigger timerReason with timer := none }
    | some false => { s with timer := none }
    | none => s

/-- One line of progress, if it is time for it. -/
def progressStep (w : Surroundings β) (first : Bool) (s : SwarmRun β) : Option (SwarmRun β) :=
  match s.progress, s.settings.statsInterval with
  | some n, some interval =>
    match Turn.of first (s.progressDue n interval ≤ s.now) s.isStopping with
    | some true =>
      match s.snapshot w with
      | .ok report => some { s.note (.progress report.total) with progress := some (n + 1) }
      | .error _ => some { s with progress := none }
    | some false => some { s with progress := none }
    | none => none
  | _, _ => none

/-- Lines of progress until it is no time for more, at most a number of them. -/
def pollProgress (w : Surroundings β) (first : Nat → Bool) : Nat → SwarmRun β → SwarmRun β
  | 0, s => s
  | n + 1, s =>
    match progressStep w (first n) s with
    | some s => pollProgress w first n s
    | none => s

end SwarmRun

end LoadSwarm
