/-
  What is logged, by origin.

  * `LogFilter.ofTexts`: the directives of the command line, of the environment or of
    the configuration, and those that are added to them.
  * `LogFilter.admits`: the most specific rule for an origin decides.
-/
import LoadSwarm.Log.Directive
import LoadSwarm.Log.Record

namespace LoadSwarm

/-- Which records of some origins are logged. -/
structure LogRule where
  /-- how the origin begins -/
  target : Option String
  /-- the values that have to be there -/
  fields : List String
  threshold : Threshold
  deriving DecidableEq, Repr

namespace LogRule

/-- The rule that a directive gives for records outside of spans. -/
def ofDirective? (d : Directive) : Option LogRule :=
  if d.span.isSome || d.fields.any (·.2) then none
  else some ⟨d.target, d.fields.map (·.1), d.threshold⟩

/-- Whether a rule is about a record. -/
def covers (r : LogRule) (origin : String) (names : List String) : Bool :=
  (match r.target with
   | some t => Text.startsWith t origin
   | none => true) && r.fields.all names.contains

/-- The octets of a target, one more than that for a target at all. -/
def reach (r : LogRule) : Nat :=
  match r.target with
  | some t => t.utf8ByteSize + 1
  | none => 0

/-- Whether a rule is looked at before another one: longer targets and more fields first,
    then the later text. -/
def precedes (a b : LogRule) : Bool :=
  if a.reach ≠ b.reach then b.reach < a.reach
  else if a.fields.length ≠ b.fields.length then b.fields.length < a.fields.length
  else if a.target ≠ b.target then (b.target.getD "") < (a.target.getD "")
  else decide (b.fields < a.fields)

/-- Whether two rules are about the same records. -/
def sameScope (a b : LogRule) : Bool := a.target = b.target && a.fields = b.fields

end LogRule

/-- The rules for what is logged, the most specific first. -/
structure LogFilter where
  rules : List LogRule
  deriving DecidableEq, Repr

/-- A text that is no filter, and why. -/
inductive FilterError where
  | level (text : String) (cause : DirectiveError)
  | directive (text : String) (cause : DirectiveError)
  deriving DecidableEq, Repr

/-- The wording, followed by the causes below it. -/
def FilterError.chain : FilterError → List String
  | level text cause => ("Invalid log level: " ++ text) :: cause.chain
  | directive text cause => ("Invalid log filter directive: " ++ text) :: cause.chain

namespace LogFilter

/-- Only errors are logged. -/
def errorsOnly : LogFilter := ⟨[⟨none, [], ⟨LogLevel.error.rank⟩⟩]⟩

/-- A rule in its place; it replaces the one for the same records. -/
def insert (r : LogRule) : List LogRule → List LogRule
  | [] => [r]
  | q :: rest =>
    if r.sameScope q then r :: rest
    else if r.precedes q then r :: q :: rest
    else q :: insert r rest

/-- A filter with a directive more; one about spans changes nothing. -/
def add (f : LogFilter) (d : Directive) : LogFilter :=
  match LogRule.ofDirective? d with
  | some r => ⟨insert r f.rules⟩
  | none => f

/-- The filter of some directives; only errors are logged if there are none. -/
def ofDirectives (ds : List Directive) : LogFilter :=
  if ds.isEmpty then errorsOnly else ds.foldl add ⟨[]⟩

/-- Reads directives that are separated by commas. -/
def parse (patterns : PatternReader) (s : String) : Except DirectiveError LogFilter := do
  let ds ← ((Text.split ',' s).filter (· ≠ "")).mapM (Directive.parse patterns)
  return ofDirectives ds

/-- What a text lists between its commas, other than white space. -/
def parts (text : String) : List String := (Text.split ',' text).filter (!Text.isBlank ·)

/-- Adds the directive in a part of a text; an error tells of the part as it is written. -/
def addPart (patterns : PatternReader) (f : LogFilter) (part : String) :
    Except FilterError LogFilter :=
  match Directive.parse patterns (Text.trim part) with
  | .ok d => .ok (f.add d)
  | .error e => .error (.directive part e)

/-- Adds the directives of a text that are separated by commas. -/
def addText (patterns : PatternReader) (f : LogFilter) (text : String) :
    Except FilterError LogFilter :=
  (parts text).foldlM (addPart patterns) f

/-- The filter that a run starts with: that of the command line, or else that of the
    environment, or else the level of the configuration. -/
def initial (patterns : PatternReader) (level : LogLevel) (given fromEnvironment : Option String) :
    Except FilterError LogFilter :=
  let ofLevel := ofDirectives [{ threshold := ⟨level.rank⟩ }]
  match given with
  | some text => (parse patterns text).mapError (.level text)
  | none =>
    match fromEnvironment with
    | some text => .ok ((parse patterns text).toOption.getD ofLevel)
    | none => .ok ofLevel

/-- The filter of a run. -/
def ofTexts (patterns : PatternReader) (options : LogOptions)
    (given fromEnvironment : Option String) : Except FilterError LogFilter := do
  let f ← initial patterns options.level given fromEnvironment
  match options.filter with
  | some text => addText patterns f text
  | none => return f

/-- Whether a record is logged. -/
def admits (f : LogFilter) (r : LogRecord) : Bool :=
  match f.rules.find? (·.covers r.origin ("message" :: r.values.map (·.1))) with
  | some rule => rule.threshold.admits r.level
  | none => false

end LogFilter

end LoadSwarm
