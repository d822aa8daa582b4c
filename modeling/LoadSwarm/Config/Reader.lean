/-
  Configurations from YAML texts.

  * `Configuration.ofYaml`: every part and every field may be missing and then has
    its default; unknown fields are passed over, and a field may be given once.
  * A pacing names its kind under `type`; the numbers beside it are read once the
    kind is known.
-/
import LoadSwarm.Config.Basic
import LoadSwarm.Yaml.Content

namespace LoadSwarm

open Yaml

/-- A whole number of seconds. -/
def readSeconds (at_ : Place) (n : Node) : Reading Duration := do
  return Duration.ofSeconds (UInt64.ofNat (← readNatural "u64" Unsigned.max64 at_ n))

/-- A number of 32 bits. -/
def readNat32 (at_ : Place) (n : Node) : Reading UInt32 := do
  return UInt32.ofNat (← readNatural "u32" Unsigned.max32 at_ n)

/-- A number of 64 bits; `expected` names its type. -/
def readNat64 (expected : String) (at_ : Place) (n : Node) : Reading UInt64 := do
  return UInt64.ofNat (← readNatural expected Unsigned.max64 at_ n)

namespace Target

/-- The fields of a target. -/
def fields : List (RecordField Target) :=
  [.set "host" readText fun t x => { t with host := x },
   .set "identifiers" (readOption (readList readText)) fun t x => { t with identifiers := x }]

/-- Reads a target. -/
def read : Place → Node → Reading Target := readRecord "struct TargetConfig" fields {}

end Target

/-- The kinds of pacing. -/
inductive PacingKind where
  | none
  | constant
  | between
  deriving DecidableEq, Repr

namespace PacingKind

/-- The name of a kind. -/
def name : PacingKind → String
  | none => "none"
  | constant => "constant"
  | between => "between"

/-- All kinds. -/
def all : List PacingKind := [none, constant, between]

/-- The kind with a given name. -/
def ofName (s : String) : Except Mismatch PacingKind :=
  match all.find? (·.name = s) with
  | some k => .ok k
  | .none => .error (.unknownVariant s (all.map name))

end PacingKind

namespace Pacing

/-- The pacing of a kind with the numbers that its content gives. -/
def ofContent (kind : PacingKind) (content : Content) : Except Mismatch Pacing :=
  match kind with
  | .none => do
    content.empty
    return .none
  | .constant => do
    match ← content.floats "PacingConfig::Constant" ["seconds"] with
    | x :: _ => return .constant x
    | [] => .error (.missingField "seconds")
  | .between => do
    match ← content.floats "PacingConfig::Between" ["min", "max"] with
    | least :: most :: _ => return .between least most
    | _ => .error (.missingField "max")

/-- Reads a pacing. -/
def read (at_ : Place) (n : Node) : Reading Pacing := do
  let (kind, content) ← readTagged "internally tagged enum PacingConfig" "type"
    (readWord "variant identifier" PacingKind.ofName) at_ n
  Reading.ofExcept (ofContent kind content)

end Pacing

namespace LoadShape

/-- The fields of a load shape. -/
def fields : List (RecordField LoadShape) :=
  [.set "users" readNat32 fun s x => { s with users := x },
   .set "spawn_rate" readFloat fun s x => { s with spawnRate := x },
   .set "run_time" (readOption readSeconds) fun s x => { s with runTime := x },
   .set "pacing" Pacing.read fun s x => { s with pacing := x },
   .set "seed" (readOption (readNat64 "u64")) fun s x => { s with seed := x }]

/-- Reads a load shape. -/
def read : Place → Node → Reading LoadShape := readRecord "struct SwarmConfig" fields {}

end LoadShape

namespace ConnectionPool

/-- The fields of a connection pool. -/
def fields : List (RecordField ConnectionPool) :=
  [.set "max_idle_per_host" (readNat64 "usize") fun p x => { p with maxIdlePerHost := x },
   .set "idle_timeout" readSeconds fun p x => { p with idleTimeout := x },
   .set "connection_timeout" readSeconds fun p x => { p with connectionTimeout := x }]

/-- Reads the options of a connection pool. -/
def read : Place → Node → Reading ConnectionPool :=
  readRecord "struct ConnectionPoolConfig" fields {}

end ConnectionPool

namespace ClientOptions

/-- The fields of the options of the client. -/
def fields : List (RecordField ClientOptions) :=
  [.set "timeout" readSeconds fun c x => { c with timeout := x },
   .set "max_redirects" readNat32 fun c x => { c with maxRedirects := x },
   .set "user_agent" readText fun c x => { c with userAgent := x },
   .set "verify_ssl" readBool fun c x => { c with verifyCertificates := x },
   .set "connection_pool" ConnectionPool.read fun c x => { c with pool := x }]

/-- Reads the options of the client. -/
def read : Place → Node → Reading ClientOptions := readRecord "struct HttpConfig" fields {}

end ClientOptions

/-- Reads one of some names.  As a tag the name stands in front of a null. -/
def readName {α : Type} (ofName : String → Except Mismatch α) (at_ : Place) (n : Node) :
    Reading α := do
  let n ← Reading.follow at_ n
  match n with
  | .scalar mark tag text style =>
    match ownTag? tag with
    | some name => do
      let a ← Reading.ofExcept (ofName name)
      Reading.located mark at_.path <|
        if style = .plain && (text = "" || isNullWord text) then return a
        else Reading.mismatch (.wrongValue (.scalar (.text text)) "null")
    | none => readWord "variant identifier" ofName at_ n
  | .sequence mark tag _ =>
    match ownTag? tag with
    | some name => do
      let _ ← Reading.ofExcept (ofName name)
      Reading.located mark at_.path (wrongNode at_ "unit" n)
    | none => Reading.located mark at_.path (wrongNode at_ "a YAML tag starting with '!'" n)
  | .mapping mark tag _ =>
    match ownTag? tag with
    | some name => do
      let _ ← Reading.ofExcept (ofName name)
      Reading.located mark at_.path (wrongNode at_ "unit" n)
    | none => Reading.located mark at_.path (wrongNode at_ "a YAML tag starting with '!'" n)
  | n => wrongNode at_ "a YAML tag starting with '!'" n

/-- The log level with a given name. -/
def LogLevel.ofName (s : String) : Except Mismatch LogLevel :=
  match LogLevel.all.find? (·.name = s) with
  | some l => .ok l
  | none => .error (.unknownVariant s (LogLevel.all.map LogLevel.name))

/-- The log format with a given name. -/
def LogFormat.ofName (s : String) : Except Mismatch LogFormat :=
  match LogFormat.all.find? (·.name = s) with
  | some f => .ok f
  | none => .error (.unknownVariant s (LogFormat.all.map LogFormat.name))

namespace LogOptions

/-- The fields of the options of the log. -/
def fields : List (RecordField LogOptions) :=
  [.set "level" (readName LogLevel.ofName) fun l x => { l with level := x },
   .set "format" (readName LogFormat.ofName) fun l x => { l with format := x },
   .set "filter" (readOption readText) fun l x => { l with filter := x }]

/-- Reads the options of the log. -/
def read : Place → Node → Reading LogOptions := readRecord "struct LoggingConfig" fields {}

end LogOptions

namespace Configuration

/-- The parts of a configuration. -/
def fields : List (RecordField Configuration) :=
  [.set "target" Target.read fun c x => { c with target := x },
   .set "swarm" LoadShape.read fun c x => { c with swarm := x },
   .set "http" ClientOptions.read fun c x => { c with client := x },
   .set "logging" LogOptions.read fun c x => { c with log := x }]

/-- Reads a configuration. -/
def read : Place → Node → Reading Configuration := readRecord "struct ClusterloadConfig" fields {}

/-- The configuration that a YAML text describes. -/
def ofYaml (text : String) : Except YamlError Configuration :=
  (Document.ofText text).read read {}

end Configuration

end LoadSwarm
