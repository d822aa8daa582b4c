/-
  The course of the program.

  * `Ending`: what the program ends with: its status and its texts.
  * `Program.start`: what the words of a command line come to: an end, or a run
    that is ready to begin.
  * `Program.finish`: the end after a run.
-/
import LoadSwarm.Log.Line
import LoadSwarm.Program.Configurations
import LoadSwarm.Program.LoadRun

namespace LoadSwarm

/-- What the program ends with. -/
structure Ending where
  status : Nat := 0
  output : String := ""
  /-- lines of the log -/
  lines : List String := []
  /-- what is said after the log -/
  complaint : String := ""
  deriving DecidableEq, Repr

/-- All that is said apart from the output. -/
def Ending.errorOutput (e : Ending) : String := String.join e.lines ++ e.complaint

/-- What the words of a command line come to. -/
inductive Course where
  | ended (e : Ending)
  | running (sink : LogSink) (lines : List String) (run : LoadRun)

namespace Program

/-- The variable with directives of the log. -/
def logVariable : String := "RUST_LOG"

/-- The record of the start of a run. -/
def starting : LogRecord := { level := .info, origin := "clusterload", message := "clusterload starting" }

/-- The end after words that are no invocation; help that was asked for is an output. -/
def ofUsage (e : CommandLine.UsageError) : Ending :=
  if e.fault.isAnswer then { output := e.text } else { status := 2, complaint := e.text }

/-- The end after an error. -/
def ofError (e : CommandError) (lines : List String := []) : Ending :=
  { status := 1, lines := lines, complaint := e.report }

/-- The lines of the records that a sink admits. -/
def linesOf (sink : LogSink) (stamp : Option String) (records : List LogRecord) : List String :=
  records.filterMap (sink.line? stamp)

/-- The end after a command on configuration files. -/
def ofOutcome (sink : LogSink) (stamp : Option String) (o : CommandOutcome) : Ending :=
  let lines := linesOf sink stamp o.log
  match o.result with
  | .ok () => { output := o.output, lines := lines }
  | .error e => { ofError e lines with output := o.output }

/-- The configuration that a run is asked to use. -/
def configurationOf (env : Environment) (files : FileTree) (i : Invocation) (o : RunOptions) :
    Except CommandError Configuration := do
  let c ← Configuration.ofFiles env files i.config
  (o.overrides.apply c).validated.mapError .notAccepted

/-- The sink for the log. -/
def sinkOf (patterns : PatternReader) (env : Environment) (i : Invocation) (options : LogOptions) :
    Except CommandError LogSink :=
  (LogSink.ofTexts patterns options i.logLevel (env logVariable)).mapError .badFilter

/-- What an invocation comes to, with the tree that it leaves. -/
def perform (patterns : PatternReader) (env : Environment) (files : FileTree)
    (stamp : Option String) (i : Invocation) : Except CommandError (FileTree × Course) :=
  match i.command with
  | .validate path => do
    let sink ← sinkOf patterns env i {}
    return (files, .ended (ofOutcome sink stamp (CommandOutcome.validateFile files path)))
  | .generate path force => do
    let sink ← sinkOf patterns env i {}
    let (files, o) := CommandOutcome.generateFile files path force
    return (files, .ended (ofOutcome sink stamp o))
  | .display => do
    let c ← Configuration.ofFiles env files i.config
    let sink ← sinkOf patterns env i c.log
    return (files, .ended (ofOutcome sink stamp (CommandOutcome.display c)))
  | .run o => do
    let c ← configurationOf env files i o
    let sink ← sinkOf patterns env i c.log
    let lines := linesOf sink stamp ([starting, LoadRun.targeting c] ++ LoadRun.connecting c)
    match LoadRun.prepare c o with
    | .ok r => return (files, .running sink lines r)
    | .error e => return (files, .ended (ofError e lines))

/-- What the words of a command line come to, with the tree that is left.  Log lines begin with
    a stamp, if there is one. -/
def start (patterns : PatternReader) (env : Environment) (files : FileTree)
    (stamp : Option String) (words : List String) : FileTree × Course :=
  match Invocation.read words with
  | .error e => (files, .ended (ofUsage e))
  | .ok i =>
    match perform patterns env files stamp i with
    | .ok done => done
    | .error e => (files, .ended (ofError e))

/-- The record of a run with failures. -/
def failing (total : EntryReport) : LogRecord :=
  { level := .error
    origin := "clusterload"
    message := toString total.failures ++ " of " ++ toString total.requests ++ " requests failed" }

/-- The end after a run with the lines that were logged.  A run with failures does not
    succeed. -/
def finish (r : LoadRun) (sink : LogSink) (stamp : Option String) (lines : List String)
    (result : Except RunFailure StatsReport) : Ending :=
  match result with
  | .error (.crashed message) => { status := 101, lines := lines, complaint := message ++ "\n" }
  | .error e => ofError (.runFailed e) lines
  | .ok report =>
    let output := (if r.json then report.json.pretty else report.table) ++ "\n"
    if report.total.failures = 0 then { output := output, lines := lines }
    else
      { status := 1
        output := output
        lines := lines ++ linesOf sink stamp [failing report.total] }

end Program

end LoadSwarm
