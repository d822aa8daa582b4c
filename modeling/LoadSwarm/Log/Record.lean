/-
  What is logged.

  * `LogRecord`: a message with its level, its origin and named values.
-/
import LoadSwarm.Config.Basic

namespace LoadSwarm

/-- A value that is logged under a name. -/
inductive LogValue where
  | count (n : Nat)
  | float (x : Binary64)
  /-- a text that is quoted where values are -/
  | text (s : String)
  /-- a text that stands as it is -/
  | shown (s : String)
  deriving DecidableEq

/-- A message with its level, its origin and named values. -/
structure LogRecord where
  level : LogLevel
  origin : String
  message : String
  values : List (String × LogValue) := []
  deriving DecidableEq

end LoadSwarm
