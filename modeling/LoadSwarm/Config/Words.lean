/-
  The short texts of options: pacings, log levels and log formats.

  * `Pacing.parse`: `none`, `constant:SECS` or `between:MIN:MAX`, the words in any
    letter case and white space around the numbers; the pacing has to be valid.
  * `Pacing.text`: the same form with the fewest digits.
  * `LogLevel.parse`, `LogFormat.parse`: the names in any letter case; `warning`
    is a level too.
-/
import LoadSwarm.Config.Validation

namespace LoadSwarm

namespace Pacing

/-- Equal up to the case of the letters A to Z. -/
def sameWord (a b : String) : Bool := Text.lowerAscii a = Text.lowerAscii b

/-- Reads a number of seconds with white space around it. -/
def parseSeconds (text : String) : Except DomainError Binary64 :=
  match Binary64.parse (Text.trim text) with
  | .ok x => .ok x
  | .error reason => .error ⟨domain, .badSeconds text reason⟩

/-- Reads the form of a pacing without judging its numbers. -/
def parseForm (s : String) : Except DomainError Pacing :=
  match Text.split ':' s with
  | [mode] =>
    if sameWord mode "none" then .ok .none else .error ⟨domain, .badPacing s⟩
  | [mode, seconds] =>
    if sameWord mode "constant" then return .constant (← parseSeconds seconds)
    else .error ⟨domain, .badPacing s⟩
  | [mode, least, most] =>
    if sameWord mode "between" then
      return .between (← parseSeconds least) (← parseSeconds most)
    else .error ⟨domain, .badPacing s⟩
  | _ => .error ⟨domain, .badPacing s⟩

/-- Reads a valid pacing. -/
def parse (s : String) : Except DomainError Pacing := do
  let p ← parseForm s
  p.validate
  return p

/-- The text of a pacing. -/
def text : Pacing → String
  | none => "none"
  | constant s => "constant:" ++ s.plain
  | between least most => "between:" ++ least.plain ++ ":" ++ most.plain

end Pacing

/-- A text that names no log level or format. -/
inductive LogWordError where
  | badLevel (text : String)
  | badFormat (text : String)
  deriving DecidableEq, Repr

/-- The wording of the reason. -/
def LogWordError.message : LogWordError → String
  | badLevel text => "Invalid log level: " ++ text
  | badFormat text => "Invalid log format: " ++ text

/-- Reads the name of a level. -/
def LogLevel.parse (s : String) : Except LogWordError LogLevel :=
  let word := Text.lowerAscii s
  if word = "warning" then .ok .warn
  else match LogLevel.all.find? (·.name = word) with
    | some level => .ok level
    | none => .error (.badLevel s)

/-- Reads the name of a format. -/
def LogFormat.parse (s : String) : Except LogWordError LogFormat :=
  let word := Text.lowerAscii s
  match LogFormat.all.find? (·.name = word) with
  | some format => .ok format
  | none => .error (.badFormat s)

end LoadSwarm
