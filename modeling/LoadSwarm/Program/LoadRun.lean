/-
  Load runs of the program.

  * `LoadRun.prepare`: a valid configuration is turned into a client and a swarm.
  * `LoadRun.user`: the users of a seeded run have seeds of their own, one after
    the other.
  * `LoadRun.surroundings`: what the run meets with in a network.
-/
import LoadSwarm.Http.Exchange
import LoadSwarm.Program.Error
import LoadSwarm.Program.Invocation
import LoadSwarm.Swarm.Schedule

namespace LoadSwarm

/-- A run that is ready to begin. -/
structure LoadRun where
  configuration : Configuration
  /-- whether the report is wanted as JSON -/
  json : Bool
  client : HttpClient
  swarm : Swarm

namespace LoadRun

/-- The time between two lines of progress; zero seconds mean none. -/
def progressInterval (o : RunOptions) : Option Duration :=
  if o.statsInterval = 0 then none else some (Duration.ofSeconds o.statsInterval)

/-- The settings of a swarm for a configuration and the options of a run. -/
def settings (c : Configuration) (o : RunOptions) : SwarmSettings :=
  { SwarmSettings.ofShape c.swarm with statsInterval := progressInterval o }

/-- The record of the target. -/
def targeting (c : Configuration) : LogRecord :=
  { level := .info
    origin := "clusterload::commands::run"
    message :=
      "Targeting " ++ c.target.host ++ " with " ++
        toString (Identifiers.ofTarget c.target).size ++ " cluster identifiers" }

/-- The record of a client that is made, if its base is a URL. -/
def connecting (c : Configuration) : List LogRecord :=
  match Url.parse c.target.host with
  | .ok url =>
    if url.isOpaque then []
    else
      [{ level := .debug
         origin := "clusterload_http::client"
         message :=
           "Creating HttpManager for " ++ url.text ++ " with timeout: " ++
             toString c.client.timeout.seconds ++ "s" }]
  | .error _ => []

/-- A client and a swarm for a configuration. -/
def prepare (c : Configuration) (o : RunOptions) : Except CommandError LoadRun := do
  let client ← (HttpClient.connect c.target.host (ClientSettings.ofOptions c.client)).mapError .noClient
  let swarm ← (Swarm.new (settings c o)).mapError .badSettings
  return ⟨c, o.json, client, swarm⟩

/-- The seed of a user: that of the run and the number of the user, or else a random one. -/
def seed (c : Configuration) (chance : Nat → UInt64) (user : Nat) : UInt64 :=
  match c.swarm.seed with
  | some s => s + UInt64.ofNat user
  | none => chance user

/-- The user with a number. -/
def user (c : Configuration) (chance : Nat → UInt64) (i : Nat) : User WordStream :=
  ⟨Identifiers.ofTarget c.target, WordStream.ofSeed (seed c chance i)⟩

/-- What a run meets with in a network, with random words for seeds and for waits. -/
def surroundings (r : LoadRun) (net : Network) (seeds waits : Nat → UInt64) (epoch : Timestamp) :
    Surroundings (User WordStream) :=
  { make := user r.configuration seeds
    client := fun _ path => { outcome := (r.client.get net path).outcome }
    word := waits
    epoch := epoch }

end LoadRun

end LoadSwarm
