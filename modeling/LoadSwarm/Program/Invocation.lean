/-
  What the program is asked to do.

  * `Invocation`: a command with its options.
  * `programRule`: the commands and options that there are.
  * `Invocation.read`: the invocation that the words of a command line mean.
-/
import LoadSwarm.CommandLine.Reader
import LoadSwarm.Config.Layers
import LoadSwarm.Number.Signed

namespace LoadSwarm

open CommandLine

/-- The options of a run. -/
structure RunOptions where
  /-- host, users, spawn rate, run time, pacing and seed, as far as they are given -/
  overrides : Overrides := {}
  /-- the seconds between two lines of progress; zero for no lines -/
  statsInterval : UInt64 := 10
  json : Bool := false
  deriving DecidableEq

/-- A command of the program. -/
inductive Command where
  | run (options : RunOptions)
  | validate (path : String)
  | generate (path : String) (force : Bool)
  | display
  deriving DecidableEq

/-- A command with the options that all commands share. -/
structure Invocation where
  config : Option String := none
  logLevel : Option String := none
  command : Command
  deriving DecidableEq

/-! ## Values -/

/-- A reader of the value of an option. -/
abbrev ValueReader (α : Type) := String → Except ValueFault α

namespace ValueReader

/-- Whether a reader refuses a text. -/
def check {α : Type} (read : ValueReader α) (text : String) : Option ValueFault :=
  match read text with
  | .ok _ => none
  | .error fault => some fault

/-- The value of an option that was given. -/
def get? {α : Type} (read : ValueReader α) (m : Matches) (long : String) : Option α :=
  (m.value? long).bind fun text => (read text).toOption

/-- A path is not empty. -/
def path : ValueReader String := fun text => if text.isEmpty then .error .absent else .ok text

/-- A number of 32 bits. -/
def nat32 : ValueReader UInt32 := fun text =>
  match Signed.parse text with
  | .error e => .error (.invalid e.message)
  | .ok n =>
    if 0 ≤ n ∧ n ≤ Unsigned.max32 then .ok (UInt32.ofNat n.toNat)
    else .error (.invalid (toString n ++ " is not in 0..=" ++ toString Unsigned.max32))

/-- A number of 64 bits. -/
def nat64 : ValueReader UInt64 := fun text =>
  match Unsigned.parse Unsigned.max64 text with
  | .ok n => .ok (UInt64.ofNat n)
  | .error e => .error (.invalid e.message)

/-- A whole number of seconds. -/
def seconds : ValueReader Duration := fun text => (nat64 text).map Duration.ofSeconds

/-- A floating point number. -/
def float : ValueReader Binary64 := fun text =>
  match Binary64.parse text with
  | .ok x => .ok x
  | .error e => .error (.invalid e.message)

/-- A valid pacing in its short form. -/
def pacing : ValueReader Pacing := fun text =>
  match Pacing.parse text with
  | .ok p => .ok p
  | .error e => .error (.invalid e.message)

end ValueReader

/-! ## Commands and options -/

/-- The path of the configuration file. -/
def configRule : OptionRule :=
  { long := "config"
    placeholder := some "PATH"
    help := "Path to configuration file"
    shared := true
    check := ValueReader.path.check }

/-- What is logged, in the place of the configuration. -/
def logLevelRule : OptionRule :=
  { long := "log-level"
    placeholder := some "LEVEL"
    help := "Set the log level (trace, debug, info, warn, error)"
    shared := true }

/-- The explanation of a command. -/
def helpRule : OptionRule :=
  { long := "help", short := some 'h', help := "Print help", effect := .help }

/-- The version of the program. -/
def versionRule : OptionRule :=
  { long := "version", short := some 'V', help := "Print version", effect := .version }

/-- The run of a swarm. -/
def runRule : CommandRule :=
  .mk "run" "Run simulated users against the target until the run time elapses or ctrl-c"
    [configRule,
     { long := "host", placeholder := some "URL", help := "Base URL of the service under test" },
     logLevelRule,
     { long := "users"
       short := some 'u'
       placeholder := some "N"
       help := "Number of concurrent users"
       check := ValueReader.nat32.check },
     { long := "spawn-rate"
       short := some 'r'
       placeholder := some "RATE"
       help := "Users started per second"
       check := ValueReader.float.check },
     { long := "run-time"
       short := some 't'
       placeholder := some "SECS"
       help := "Stop after this many seconds"
       check := ValueReader.nat64.check },
     { long := "wait"
       placeholder := some "PACING"
       help := "Wait between iterations: none, constant:SECS or between:MIN:MAX"
       check := ValueReader.pacing.check },
     { long := "seed"
       placeholder := some "N"
       help := "Seed identifier selection for a reproducible request sequence"
       check := ValueReader.nat64.check },
     { long := "stats-interval"
       placeholder := some "SECS"
       help := "Seconds between progress log lines, 0 to disable"
       default := some "10"
       check := ValueReader.nat64.check },
     { long := "json", help := "Print the final report as JSON" },
     helpRule] []

/-- The check of a configuration file. -/
def validateRule : CommandRule :=
  .mk "validate" "Validate a configuration file"
    [configRule,
     { long := "config-file"
       placeholder := some "PATH"
       help := "Configuration file to validate"
       required := true
       check := ValueReader.path.check },
     logLevelRule,
     helpRule] []

/-- A new configuration file. -/
def generateRule : CommandRule :=
  .mk "generate" "Write a sample configuration file"
    [configRule,
     { long := "output"
       placeholder := some "PATH"
       help := "Output file path"
       required := true
       check := ValueReader.path.check },
     { long := "force", help := "Overwrite existing file" },
     logLevelRule,
     helpRule] []

/-- The configuration that a run would use. -/
def displayRule : CommandRule :=
  .mk "show" "Print the effective configuration (file, then environment)"
    [configRule, logLevelRule, helpRule] []

/-- The commands on configurations. -/
def configCommandRule : CommandRule :=
  .mk "config" "Configuration management commands" [configRule, logLevelRule, helpRule]
    [validateRule, generateRule, displayRule]

/-- The program. -/
def programRule : CommandRule :=
  .mk "clusterload" "clusterload CLI: drive simulated users against a cluster service"
    [configRule, logLevelRule, helpRule, versionRule] [runRule, configCommandRule]

/-- The version of the program. -/
def programVersion : String := "0.1.0"

/-! ## Invocations -/

/-- The options of a run that were given. -/
def RunOptions.ofMatches (m : Matches) : RunOptions :=
  { overrides :=
      { host := m.value? "host"
        users := ValueReader.nat32.get? m "users"
        spawnRate := ValueReader.float.get? m "spawn-rate"
        runTime := ValueReader.seconds.get? m "run-time"
        pacing := ValueReader.pacing.get? m "wait"
        seed := ValueReader.nat64.get? m "seed" }
    statsInterval := (ValueReader.nat64.get? m "stats-interval").getD 10
    json := m.has "json" }

/-- The command that was named. -/
def Command.ofMatches (m : Matches) : Command :=
  match m.path with
  | ["config", "validate"] => .validate ((m.value? "config-file").getD "")
  | ["config", "generate"] => .generate ((m.value? "output").getD "") (m.has "force")
  | ["config", "show"] => .display
  | _ => .run (RunOptions.ofMatches m)

/-- The invocation that the words of a command line mean. -/
def Invocation.read (words : List String) : Except UsageError Invocation :=
  match CommandLine.read programRule programVersion words with
  | .error e => .error e
  | .ok m =>
    .ok { config := m.value? "config", logLevel := m.value? "log-level", command := Command.ofMatches m }

end LoadSwarm
