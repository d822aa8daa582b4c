/-
  Configurations in layers: defaults, a file, the environment, and the flags of a
  command line.

  * `Overrides`: values that a layer sets; `Overrides.apply` puts them in the place
    of those below.
  * `Overrides.ofEnvironment`: the values of eleven variables; the first one in
    their order with a text that cannot be read is the error.
  * `Configuration.layered`: file or defaults under the environment, not yet
    validated; `Configuration.load` validates too.
-/
import LoadSwarm.Config.Words
import LoadSwarm.Config.Reader
import LoadSwarm.Files.Tree

namespace LoadSwarm

/-! ## Errors -/

/-- Why a variable could not be read. -/
inductive VariableError where
  | notNatural (name : String) (reason : UnsignedError)
  | notFloat (name : String) (reason : FloatError)
  | notBool (name : String)
  | notLogWord (reason : LogWordError)
  deriving DecidableEq

/-- The wording of the reason. -/
def VariableError.message : VariableError → String
  | notNatural name reason => "Invalid " ++ name ++ ": " ++ reason.message
  | notFloat name reason => "Invalid " ++ name ++ ": " ++ reason.message
  | notBool name => "Invalid " ++ name ++ ": provided string was not \x60true\x60 or \x60false\x60"
  | notLogWord reason => reason.message

/-- Why there is no configuration. -/
inductive ConfigError where
  | unreadable (e : FileError)
  | unparsable (e : Yaml.YamlError)
  | badVariable (e : VariableError)
  | invalid (e : DomainError)
  deriving DecidableEq

namespace ConfigError

/-- The wording of the reason. -/
def message : ConfigError → String
  | unreadable e => "Failed to read config file: " ++ e.message
  | unparsable e => "Failed to parse config: " ++ e.message
  | badVariable e => "Environment variable error: " ++ e.message
  | invalid e => e.message

/-- The wording of the cause below the reason. -/
def cause? : ConfigError → Option String
  | unreadable e => some e.message
  | unparsable e => some e.message
  | _ => none

/-- The wording, followed by the cause below it. -/
def chain (e : ConfigError) : List String := e.message :: e.cause?.toList

end ConfigError

/-! ## Layers -/

/-- Values that a layer sets. -/
structure Overrides where
  host : Option String := none
  users : Option UInt32 := none
  spawnRate : Option Binary64 := none
  runTime : Option Duration := none
  pacing : Option Pacing := none
  seed : Option UInt64 := none
  timeout : Option Duration := none
  userAgent : Option String := none
  verifyCertificates : Option Bool := none
  level : Option LogLevel := none
  format : Option LogFormat := none
  deriving DecidableEq

/-- A configuration with the values of a layer in the place of its own. -/
def Overrides.apply (o : Overrides) (c : Configuration) : Configuration :=
  { target := { c.target with host := o.host.getD c.target.host }
    swarm :=
      { users := o.users.getD c.swarm.users
        spawnRate := o.spawnRate.getD c.swarm.spawnRate
        runTime := o.runTime.or c.swarm.runTime
        pacing := o.pacing.getD c.swarm.pacing
        seed := o.seed.or c.swarm.seed }
    client :=
      { c.client with
        timeout := o.timeout.getD c.client.timeout
        userAgent := o.userAgent.getD c.client.userAgent
        verifyCertificates := o.verifyCertificates.getD c.client.verifyCertificates }
    log :=
      { c.log with
        level := o.level.getD c.log.level
        format := o.format.getD c.log.format } }

/-! ## The environment -/

/-- The texts of variables; those that are unset or no text have none. -/
abbrev Environment := String → Option String

/-- The variables that count, in the order in which they are read. -/
inductive Variable where
  | host
  | users
  | spawnRate
  | runTime
  | wait
  | seed
  | timeout
  | userAgent
  | verifyCertificates
  | level
  | format
  deriving DecidableEq, Repr

namespace Variable

/-- The name of a variable after the one that all share. -/
def key : Variable → String
  | host => "HOST"
  | users => "USERS"
  | spawnRate => "SPAWN_RATE"
  | runTime => "RUN_TIME"
  | wait => "WAIT"
  | seed => "SEED"
  | timeout => "HTTP_TIMEOUT"
  | userAgent => "HTTP_USER_AGENT"
  | verifyCertificates => "HTTP_VERIFY_SSL"
  | level => "LOG_LEVEL"
  | format => "LOG_FORMAT"

/-- All variables. -/
def all : List Variable :=
  [host, users, spawnRate, runTime, wait, seed, timeout, userAgent, verifyCertificates, level, format]

/-- The full name of a variable. -/
def name (front : String) (v : Variable) : String := front ++ "_" ++ v.key

end Variable

/-- The front part of the names, unless another one is asked for. -/
def defaultFront : String := "CLUSTERLOAD"

namespace Environment

/-- The value of a variable, read by `read` from its full name and text. -/
def value {α : Type} (env : Environment) (front : String) (v : Variable)
    (read : String → String → Except ConfigError α) : Except ConfigError (Option α) :=
  match env (v.name front) with
  | none => .ok none
  | some text =>
    match read (v.name front) text with
    | .ok a => .ok (some a)
    | .error e => .error e

/-- Any text is a value. -/
def readText (_ text : String) : Except ConfigError String := .ok text

/-- A natural number up to a limit, with white space around it. -/
def readNatural (limit : Nat) (name text : String) : Except ConfigError Nat :=
  match Unsigned.parse limit (Text.trim text) with
  | .ok n => .ok n
  | .error e => .error (.badVariable (.notNatural name e))

/-- A number of 32 bits. -/
def readNat32 (name text : String) : Except ConfigError UInt32 := do
  return UInt32.ofNat (← readNatural Unsigned.max32 name text)

/-- A number of 64 bits. -/
def readNat64 (name text : String) : Except ConfigError UInt64 := do
  return UInt64.ofNat (← readNatural Unsigned.max64 name text)

/-- A whole number of seconds. -/
def readSeconds (name text : String) : Except ConfigError Duration := do
  return Duration.ofSeconds (← readNat64 name text)

/-- A floating point number, with white space around it. -/
def readFloat (name text : String) : Except ConfigError Binary64 :=
  match Binary64.parse (Text.trim text) with
  | .ok x => .ok x
  | .error e => .error (.badVariable (.notFloat name e))

/-- A truth value, with white space around it. -/
def readBool (name text : String) : Except ConfigError Bool :=
  let word := Text.trim text
  if word = "true" then .ok true
  else if word = "false" then .ok false
  else .error (.badVariable (.notBool name))

/-- A valid pacing in its short form. -/
def readPacing (_ text : String) : Except ConfigError Pacing :=
  match Pacing.parse text with
  | .ok p => .ok p
  | .error e => .error (.invalid e)

/-- The name of a log level. -/
def readLevel (_ text : String) : Except ConfigError LogLevel :=
  match LogLevel.parse text with
  | .ok l => .ok l
  | .error e => .error (.badVariable (.notLogWord e))

/-- The name of a log format. -/
def readFormat (_ text : String) : Except ConfigError LogFormat :=
  match LogFormat.parse text with
  | .ok f => .ok f
  | .error e => .error (.badVariable (.notLogWord e))

end Environment

/-- The values that variables set. -/
def Overrides.ofEnvironment (front : String) (env : Environment) : Except ConfigError Overrides := do
  let host ← env.value front .host Environment.readText
  let users ← env.value front .users Environment.readNat32
  let spawnRate ← env.value front .spawnRate Environment.readFloat
  let runTime ← env.value front .runTime Environment.readSeconds
  let pacing ← env.value front .wait Environment.readPacing
  let seed ← env.value front .seed Environment.readNat64
  let timeout ← env.value front .timeout Environment.readSeconds
  let userAgent ← env.value front .userAgent Environment.readText
  let verify ← env.value front .verifyCertificates Environment.readBool
  let level ← env.value front .level Environment.readLevel
  let format ← env.value front .format Environment.readFormat
  return { host := host
           users := users
           spawnRate := spawnRate
           runTime := runTime
           pacing := pacing
           seed := seed
           timeout := timeout
           userAgent := userAgent
           verifyCertificates := verify
           level := level
           format := format }

/-! ## Loading -/

/-- The result of reading a file. -/
abbrev FileText := Except FileError String

namespace Configuration

/-- The configuration that a file describes, as it is. -/
def parseFile (content : FileText) : Except ConfigError Configuration :=
  match content with
  | .error e => .error (.unreadable e)
  | .ok text =>
    match ofYaml text with
    | .ok c => .ok c
    | .error e => .error (.unparsable e)

/-- The configuration that variables put over another one. -/
def underEnvironment (front : String) (env : Environment) (c : Configuration) :
    Except ConfigError Configuration := do
  return (← Overrides.ofEnvironment front env).apply c

/-- The configuration if it is valid. -/
def validated (c : Configuration) : Except ConfigError Configuration :=
  match c.validate with
  | .ok () => .ok c
  | .error e => .error (.invalid e)

/-- The layers of a file, or of the defaults without one, and the environment. -/
def layered (front : String) (file : Option FileText) (env : Environment) :
    Except ConfigError Configuration := do
  let c ← match file with
    | some content => parseFile content
    | none => pure {}
  c.underEnvironment front env

/-- The configuration of a file under the environment. -/
def ofFile (front : String) (content : FileText) (env : Environment) :
    Except ConfigError Configuration := do
  let c ← parseFile content
  let c ← c.underEnvironment front env
  c.validated

/-- The configuration of the environment alone. -/
def ofEnvironment (front : String) (env : Environment) : Except ConfigError Configuration := do
  let c ← underEnvironment front env {}
  c.validated

/-- The configuration of a file, if there is one, under the environment. -/
def load (front : String) (file : Option FileText) (env : Environment) :
    Except ConfigError Configuration :=
  match file with
  | some content => ofFile front content env
  | none => ofEnvironment front env

end Configuration

end LoadSwarm
