/-
  Which configurations can be run.

  * `FieldProblem`: what can be wrong with a field; `DomainError` names the part of
    the configuration that it is in.
  * `Configuration.validate`: the problem of the first part that has one, in the
    order target, swarm, client, log.
-/
import LoadSwarm.Config.Basic
import LoadSwarm.Text.Blank
import LoadSwarm.Text.Quoted
import LoadSwarm.Url.Parser

namespace LoadSwarm

/-- What is wrong with a field. -/
inductive FieldProblem where
  | blank (field : String)
  | notPositive (field got : String)
  | notUrl (field : String) (reason : UrlError)
  | foreignScheme (field scheme : String)
  | notSeconds (field : String) (value : Binary64)
  | rateNotFinite
  | noRunTime
  | leastAboveMost (least most : Binary64)
  | badSeconds (text : String) (reason : FloatError)
  | badPacing (text : String)
  | noIdentifiers
  | slashInIdentifier (id : String)
  | blankFilter
  deriving DecidableEq

/-- The wording of a problem. -/
def FieldProblem.message : FieldProblem → String
  | blank field => field ++ " cannot be empty"
  | notPositive field got => field ++ " must be greater than 0, got " ++ got
  | notUrl field reason => field ++ " has invalid URL format: " ++ reason.message
  | foreignScheme field scheme => field ++ " must use http or https, got " ++ scheme
  | notSeconds field value =>
    field ++ " must be a non-negative number of seconds, got " ++ value.plain
  | rateNotFinite => "spawn_rate must be finite"
  | noRunTime => "run_time must be greater than 0"
  | leastAboveMost least most =>
    "min (" ++ least.plain ++ ") must not exceed max (" ++ most.plain ++ ")"
  | badSeconds text reason =>
    "invalid number of seconds " ++ Text.quoted text ++ ": " ++ reason.message
  | badPacing text =>
    "invalid pacing " ++ Text.quoted text ++ ", expected none, constant:SECS or between:MIN:MAX"
  | noIdentifiers => "identifiers cannot be an empty list"
  | slashInIdentifier id => "identifier " ++ Text.quoted id ++ " must not contain '/'"
  | blankFilter => "filter cannot be blank when set"

/-- A problem and the part of the configuration it is in. -/
structure DomainError where
  domain : String
  problem : FieldProblem
  deriving DecidableEq

/-- The wording of a problem with its part. -/
def DomainError.message (e : DomainError) : String :=
  "Domain configuration error in " ++ e.domain ++ ": " ++ e.problem.message

/-- The result of a check. -/
abbrev Check := Except DomainError Unit

namespace Check

/-- Fails with a problem where a condition does not hold. -/
def require (domain : String) (problem : FieldProblem) (ok : Bool) : Check :=
  if ok then .ok () else .error ⟨domain, problem⟩

/-- A text with more than white space. -/
def requiredText (domain field value : String) : Check :=
  require domain (.blank field) (!Text.isBlank value)

/-- A natural number above zero. -/
def positiveNat (domain field : String) (value : Nat) : Check :=
  require domain (.notPositive field (toString value)) (value ≠ 0)

/-- A whole number above zero. -/
def positiveInt (domain field : String) (value : Int) : Check :=
  require domain (.notPositive field (String.ofList (FloatLayout.intText value))) (0 < value)

/-- A floating point number that is not at most zero; a missing number is not. -/
def positiveFloat (domain field : String) (value : Binary64) : Check :=
  require domain (.notPositive field value.plain) (!value.le Binary64.zero)

/-- A finite number of seconds, zero or more. -/
def seconds (domain field : String) (value : Binary64) : Check :=
  require domain (.notSeconds field value) (value.isFinite && !value.lt Binary64.zero)

/-- A URL of the scheme http or https. -/
def url (domain field value : String) : Check := do
  requiredText domain field value
  match Url.parse value with
  | .error reason => .error ⟨domain, .notUrl field reason⟩
  | .ok u =>
    require domain (.foreignScheme field (String.ofList u.scheme))
      (u.scheme = "http".toList || u.scheme = "https".toList)

end Check

/-- An identifier has more than white space and no slash. -/
def Target.checkIdentifier (id : String) : Check := do
  Check.requiredText "target" "identifier" id
  Check.require "target" (.slashInIdentifier id) (!id.toList.contains '/')

/-- The host is an http URL, and identifiers that are listed are some and all good. -/
def Target.validate (t : Target) : Check := do
  Check.url "target" "host" t.host
  match t.identifiers with
  | none => .ok ()
  | some ids =>
    Check.require "target" .noIdentifiers (!ids.isEmpty)
    ids.forM Target.checkIdentifier

/-- The part of the configuration that pacings are in. -/
def Pacing.domain : String := "swarm.pacing"

/-- The numbers of a pacing are seconds, and the least is not above the most. -/
def Pacing.validate : Pacing → Check
  | .none => .ok ()
  | .constant s => Check.seconds domain "seconds" s
  | .between least most => do
    Check.seconds domain "min" least
    Check.seconds domain "max" most
    Check.require domain (.leastAboveMost least most) (!most.lt least)

/-- There are users, they start at a finite positive rate, and a run time is some time. -/
def LoadShape.validate (s : LoadShape) : Check := do
  Check.positiveNat "swarm" "users" s.users.toNat
  Check.positiveFloat "swarm" "spawn_rate" s.spawnRate
  Check.require "swarm" .rateNotFinite s.spawnRate.isFinite
  match s.runTime with
  | none => .ok ()
  | some d => Check.require "swarm" .noRunTime (d ≠ Duration.zero)
  s.pacing.validate

/-- Connections are kept and the time limits have whole seconds. -/
def ConnectionPool.validate (p : ConnectionPool) : Check := do
  Check.positiveNat "http.connection_pool" "max_idle_per_host" p.maxIdlePerHost.toNat
  Check.positiveNat "http.connection_pool" "idle_timeout" p.idleTimeout.seconds
  Check.positiveNat "http.connection_pool" "connection_timeout" p.connectionTimeout.seconds

/-- The time limit has whole seconds and the client has a name. -/
def ClientOptions.validate (c : ClientOptions) : Check := do
  Check.positiveNat "http" "timeout" c.timeout.seconds
  Check.requiredText "http" "user_agent" c.userAgent
  c.pool.validate

/-- A filter that is set says something. -/
def LogOptions.validate (l : LogOptions) : Check :=
  match l.filter with
  | none => .ok ()
  | some f => Check.require "logging" .blankFilter (!Text.isBlank f)

/-- All parts are good. -/
def Configuration.validate (c : Configuration) : Check := do
  c.target.validate
  c.swarm.validate
  c.client.validate
  c.log.validate

end LoadSwarm
