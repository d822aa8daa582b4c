/-
  What a load run is configured with.

  * `Configuration`: the target, the shape of the load, the options of the client
    and those of the log.
  * Every part has its defaults; `Configuration.sample` is the one that a new
    configuration file starts from.
-/
import LoadSwarm.Time.Duration

namespace LoadSwarm

/-- The service that the load is aimed at. -/
structure Target where
  /-- the base URL of the service -/
  host : String := "http://localhost:8080"
  /-- the identifiers to choose from; the built-in ones if there are none -/
  identifiers : Option (List String) := none
  deriving DecidableEq

/-- The wait between two iterations of a user, in seconds. -/
inductive Pacing where
  | none
  | constant (seconds : Binary64)
  | between (least most : Binary64)
  deriving DecidableEq

/-- How many users run, how fast they start, for how long and how they choose. -/
structure LoadShape where
  users : UInt32 := 1
  /-- users started per second -/
  spawnRate : Binary64 := Binary64.ofNat 1
  /-- runs until it is interrupted if there is none -/
  runTime : Option Duration := none
  pacing : Pacing := .none
  /-- the seed of the choices, for a run that can be repeated -/
  seed : Option UInt64 := none
  deriving DecidableEq

/-- How the client keeps its connections. -/
structure ConnectionPool where
  maxIdlePerHost : UInt64 := 256
  idleTimeout : Duration := Duration.ofSeconds 90
  connectionTimeout : Duration := Duration.ofSeconds 10
  deriving DecidableEq

/-- The name that the client gives itself. -/
def defaultUserAgent : String := "clusterload/0.1.0"

/-- The options of the client. -/
structure ClientOptions where
  timeout : Duration := Duration.ofSeconds 30
  maxRedirects : UInt32 := 10
  userAgent : String := defaultUserAgent
  verifyCertificates : Bool := true
  pool : ConnectionPool := {}
  deriving DecidableEq

/-- How much is logged. -/
inductive LogLevel where
  | error
  | warn
  | info
  | debug
  | trace
  deriving DecidableEq, Repr

/-- How log lines look. -/
inductive LogFormat where
  | json
  | text
  | compact
  deriving DecidableEq, Repr

/-- The options of the log. -/
structure LogOptions where
  level : LogLevel := .info
  format : LogFormat := .text
  /-- further directives, separated by commas -/
  filter : Option String := none
  deriving DecidableEq

/-- All options of a run. -/
structure Configuration where
  target : Target := {}
  swarm : LoadShape := {}
  client : ClientOptions := {}
  log : LogOptions := {}
  deriving DecidableEq

/-- The configuration that a new file starts from: ten users, five per second, for a minute. -/
def Configuration.sample : Configuration :=
  { swarm :=
      { users := 10
        spawnRate := Binary64.ofNat 5
        runTime := some (Duration.ofSeconds 60) } }

namespace LogLevel

/-- The name of a level. -/
def name : LogLevel → String
  | error => "error"
  | warn => "warn"
  | info => "info"
  | debug => "debug"
  | trace => "trace"

/-- All levels. -/
def all : List LogLevel := [error, warn, info, debug, trace]

end LogLevel

namespace LogFormat

/-- The name of a format. -/
def name : LogFormat → String
  | json => "json"
  | text => "text"
  | compact => "compact"

/-- All formats. -/
def all : List LogFormat := [json, text, compact]

end LogFormat

end LoadSwarm
