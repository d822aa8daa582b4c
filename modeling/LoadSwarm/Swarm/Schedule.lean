/-
  A schedule for runs.

  * `Schedule`: a run with the order of its tasks, and the triggers that are still to
    come from outside.
  * `Schedule.next?`: the action that follows.  Tasks take their turns in rounds: the
    run itself goes first; then those that were woken, the one whose last turn lies
    farthest back before the others; then those that only gave up their turn, the
    last one first.  Time passes when every task waits.
  * `Schedule.drive`: a run along its schedule, to its end.
-/
import LoadSwarm.Swarm.Run

namespace LoadSwarm

/-- A run with the order of its tasks. -/
structure Schedule (β : Type) where
  run : SwarmRun β
  /-- the task whose last turn lies farthest back is the first one -/
  order : List TaskName := [.timer, .progress]
  /-- the tasks that are still to take their turns in this round -/
  round : List TaskName := []
  /-- the tasks that gave up their turns in this round, the last one first -/
  yielded : List TaskName := []
  /-- times and reasons of triggers from outside, in the order of their times -/
  outside : List (Nat × String) := []

namespace Schedule

variable {β : Type} [Behavior β]

/-- The tasks of the users that were made while their number grew from `known`. -/
def newcomers (known made : Nat) : List TaskName := (List.range' known (made - known)).map .user

/-- The tasks that could go on, other than some. -/
def readyBut (p : Schedule β) (others : List TaskName) : List TaskName :=
  p.order.filter fun t => p.run.isReady t && !others.contains t

/-- With the state of the run after an action; tasks that it woke and users that it made join
    the round. -/
def settle (p : Schedule β) (run : SwarmRun β) : Schedule β :=
  let p := { p with run := run, order := p.order ++ newcomers p.run.users.length run.users.length }
  { p with round := p.round ++ p.readyBut (p.round ++ p.yielded) }

/-- With a turn of the run itself. -/
def stageTurn (w : Surroundings β) (p : Schedule β) : Schedule β :=
  p.settle (SwarmRun.poll w .stage (fun _ => true) p.run)

/-- With a turn of another task. -/
def turn (w : Surroundings β) (p : Schedule β) (task : TaskName) : Schedule β :=
  let run := SwarmRun.poll w task (fun _ => true) p.run
  let yielded := if run.isReady task then task :: p.yielded else p.yielded
  { p with order := p.order.erase task ++ [task], yielded := yielded }.settle run

/-- The time up to which nothing happens, for all that is known. -/
def horizon (p : Schedule β) : Option Nat :=
  match p.run.dues ++ (p.outside.head?.map (·.1)).toList with
  | [] => none
  | t :: ts => some (ts.foldl min t)

/-- With a trigger from outside, if it is time for one, or else with the passing of time. -/
def idle? (p : Schedule β) : Option (Schedule β) :=
  match p.outside with
  | (time, reason) :: rest =>
    if time ≤ p.run.now then some ({ p with outside := rest }.settle (p.run.trigger reason))
    else p.horizon.map fun t => { p with run := p.run.advance t }
  | [] => p.horizon.map fun t => { p with run := p.run.advance t }

/-- With the action that follows, if there is one. -/
def next? (w : Surroundings β) (p : Schedule β) : Option (Schedule β) :=
  match p.round with
  | task :: rest => some ({ p with round := rest }.turn w task)
  | [] =>
    let woken := p.readyBut p.yielded ++ p.yielded
    if p.run.isReady .stage then
      some ({ p with round := woken, yielded := [] }.stageTurn w)
    else
      match woken with
      | task :: rest => some ({ p with round := rest, yielded := [] }.turn w task)
      | [] => p.idle?

/-- A run along its schedule, to its end or through a number of actions. -/
def drive (w : Surroundings β) : Nat → Schedule β → Schedule β
  | 0, p => p
  | n + 1, p =>
    match p.run.result? with
    | some _ => p
    | none =>
      match p.next? w with
      | some p => drive w n p
      | none => p

end Schedule

end LoadSwarm
