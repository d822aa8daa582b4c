/-
  Log lines.

  * `LogRecord.line`: a record on a line, as text or as JSON.
  * `LogSink`: where records go: lines of one format for those that a filter admits.
-/
import LoadSwarm.Json.Value
import LoadSwarm.Log.Filter

namespace LoadSwarm

/-- The name of a level in log lines. -/
def LogLevel.heading : LogLevel → String
  | error => "ERROR"
  | warn => "WARN"
  | info => "INFO"
  | debug => "DEBUG"
  | trace => "TRACE"

namespace LogValue

/-- The text of a value in a line of text. -/
def render : LogValue → String
  | count n => toString n
  | float x => x.render .pointed
  | text s => Text.quoted s
  | shown s => s

/-- The value in a line of JSON. -/
def toJson : LogValue → JsonValue
  | count n => .nat n
  | float x => .float x
  | text s => .text s
  | shown s => .text s

end LogValue

namespace LogRecord

/-- A character of a message; those that a terminal would obey are spelled out. -/
def tameChar (c : Char) : String :=
  let n := c.toNat
  if n = 7 || n = 8 then "\\x0" ++ Text.hexText n
  else if n = 12 then "\\x0c"
  else if n = 27 || n = 127 then "\\x" ++ Text.hexText n
  else if 128 ≤ n && n ≤ 159 then Text.codePointEscape c
  else c.toString

/-- The message and the values of a record. -/
def body (r : LogRecord) : String :=
  r.message.foldl (fun acc c => acc ++ tameChar c) "" ++
    String.join (r.values.map fun v => " " ++ v.1 ++ "=" ++ v.2.render)

/-- A record as JSON, with the moment at which it was made. -/
def toJson (stamp : Option String) (r : LogRecord) : JsonValue :=
  .record
    (stamp.toList.map (fun s => ("timestamp", .text s)) ++
      [("level", .text r.level.heading),
       ("fields", .record (("message", .text r.message) :: r.values.map fun v => (v.1, v.2.toJson))),
       ("target", .text r.origin)])

/-- A record on a line, with the moment at which it was made. -/
def line (format : LogFormat) (stamp : Option String) (r : LogRecord) : String :=
  match format with
  | .json => (r.toJson stamp).compact ++ "\n"
  | .text | .compact =>
    String.join (stamp.toList.map (· ++ " ")) ++ "".pushn ' ' (5 - r.level.heading.length) ++
      r.level.heading ++ " " ++ r.origin ++ ": " ++ r.body ++ "\n"

end LogRecord

/-- Where records go: lines of one format for those that a filter admits. -/
structure LogSink where
  format : LogFormat
  filter : LogFilter
  deriving DecidableEq

namespace LogSink

/-- The sink that options, the command line and the environment ask for. -/
def ofTexts (patterns : PatternReader) (options : LogOptions)
    (given fromEnvironment : Option String) : Except FilterError LogSink := do
  return ⟨options.format, ← LogFilter.ofTexts patterns options given fromEnvironment⟩

/-- The line of a record, if it is admitted. -/
def line? (sink : LogSink) (stamp : Option String) (r : LogRecord) : Option String :=
  if sink.filter.admits r then some (r.line sink.format stamp) else none

end LogSink

end LoadSwarm
