/-
  One user at work with a client, one request after the other.

  * `ClientAnswer`: what a client answers, and how long it takes.
  * `Session`: the user, the paths that the client was asked for, and the record of
    its answers.
  * `Session.get`: asks the client and records its answer.
  * `Session.iterate`: one iteration; an answer of any kind lets it end well.
-/
import LoadSwarm.Stats.Report
import LoadSwarm.Users.Behavior

namespace LoadSwarm

/-- The answer of a client to a request. -/
structure ClientAnswer where
  outcome : Outcome
  /-- the time that it takes -/
  latency : Duration := Duration.zero

/-- A user, what it asked for and what is recorded of it. -/
structure Session (β : Type) where
  user : β
  /-- in the order of the requests -/
  paths : List String := []
  stats : RequestStats := {}

/-- How an iteration ends. -/
inductive IterationEnd where
  | done
  | failed (e : UserError)
  | crashed (message : String)
  deriving DecidableEq, Repr

namespace Session

variable {β : Type}

/-- Asks a client for a path, and records its answer.  `client n` answers the request number
    `n`. -/
def get (s : Session β) (client : Nat → String → ClientAnswer) (path : String) :
    Session β × Except StatsOverflow Outcome :=
  let answer := client s.paths.length path
  let (stats, overflow) := s.stats.record path answer.latency answer.outcome
  ({ s with paths := s.paths ++ [path], stats := stats },
    match overflow with
    | none => .ok answer.outcome
    | some o => .error o)

/-- The next move of the user, which is not carried out. -/
def peek [Behavior β] (s : Session β) : Session β × Move :=
  let (move, user) := Behavior.next s.user
  ({ s with user := user }, move)

/-- An iteration of the user. -/
def iterate [Behavior β] (s : Session β) (client : Nat → String → ClientAnswer) :
    Session β × IterationEnd :=
  match s.peek with
  | (s, .fail e) => (s, .failed e)
  | (s, .crash message) => (s, .crashed message)
  | (s, .request path) =>
    match s.get client path with
    | (s, .ok _) => (s, .done)
    | (s, .error o) => (s, .crashed o.message)

end Session

end LoadSwarm
