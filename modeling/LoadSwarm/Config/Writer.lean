/-
  The YAML text of configurations.

  * `Configuration.members`: every field in its order; an option that is not set
    is left out, and durations are cut to whole seconds.
  * `Configuration.yaml`: the text, in the shape that is read.
-/
import LoadSwarm.Config.Basic
import LoadSwarm.Yaml.Value

namespace LoadSwarm

open Yaml

/-- A text as a value. -/
def textValue (s : String) : Value := .scalar (.text s)

/-- A number as a value. -/
def natValue (n : Nat) : Value := .scalar (.natural n)

/-- The whole seconds of a duration as a value. -/
def secondsValue (d : Duration) : Value := natValue d.seconds

/-- A member of a record, if there is a value. -/
def optionalMember {α : Type} (key : String) (value : α → Value) (x : Option α) :
    List (String × Value) :=
  (x.map fun a => (key, value a)).toList

/-- The members of a target. -/
def Target.members (t : Target) : List (String × Value) :=
  ("host", textValue t.host) :: optionalMember "identifiers" .texts t.identifiers

/-- The members of a pacing. -/
def Pacing.members : Pacing → List (String × Value)
  | none => [("type", textValue "none")]
  | constant seconds => [("type", textValue "constant"), ("seconds", .scalar (.float seconds))]
  | between least most =>
    [("type", textValue "between"), ("min", .scalar (.float least)), ("max", .scalar (.float most))]

/-- The members of a load shape. -/
def LoadShape.members (s : LoadShape) : List (String × Value) :=
  [("users", natValue s.users.toNat), ("spawn_rate", .scalar (.float s.spawnRate))] ++
    optionalMember "run_time" secondsValue s.runTime ++
    [("pacing", .record s.pacing.members)] ++
    optionalMember "seed" (fun n => natValue n.toNat) s.seed

/-- The members of a connection pool. -/
def ConnectionPool.members (p : ConnectionPool) : List (String × Value) :=
  [("max_idle_per_host", natValue p.maxIdlePerHost.toNat),
   ("idle_timeout", secondsValue p.idleTimeout),
   ("connection_timeout", secondsValue p.connectionTimeout)]

/-- The members of the options of the client. -/
def ClientOptions.members (c : ClientOptions) : List (String × Value) :=
  [("timeout", secondsValue c.timeout),
   ("max_redirects", natValue c.maxRedirects.toNat),
   ("user_agent", textValue c.userAgent),
   ("verify_ssl", .scalar (.bool c.verifyCertificates)),
   ("connection_pool", .record c.pool.members)]

/-- The members of the options of the log. -/
def LogOptions.members (l : LogOptions) : List (String × Value) :=
  [("level", textValue l.level.name), ("format", textValue l.format.name)] ++
    optionalMember "filter" textValue l.filter

/-- The members of a configuration. -/
def Configuration.members (c : Configuration) : List (String × Value) :=
  [("target", .record c.target.members),
   ("swarm", .record c.swarm.members),
   ("http", .record c.client.members),
   ("logging", .record c.log.members)]

/-- The YAML text of a configuration. -/
def Configuration.yaml (c : Configuration) : String := renderRecord c.members

end LoadSwarm
