/-
  Command lines that start nothing.

  * `UsageFault`: what is wrong, or that only an explanation was asked for.
  * `UsageError.text`: the fault with a tip and the form of the command, or the
    explanation.
-/

namespace LoadSwarm.CommandLine

/-- What may have been meant. -/
inductive Tip where
  | similarOption (option : String)
  /-- an option of another command -/
  | elsewhere (command option : String)
  /-- a command behind two dashes -/
  | withoutDashes (command : String)
  deriving DecidableEq, Repr

/-- Why a command line starts nothing. -/
inductive UsageFault where
  | helpAsked (page : String)
  | versionAsked (version : String)
  | nothingGiven (page : String)
  | missingCommand (command : String) (names : List String)
  | unknownCommand (name : String) (similar : List String)
  | unknownArgument (argument : String) (tip : Option Tip)
  | unexpectedValue (value option : String)
  | missingValue (option : String)
  | invalidValue (value option reason : String)
  | repeated (option : String)
  | missingOptions (options : List String)
  deriving DecidableEq, Repr

/-- A fault with the form of the command it occurred in, where that helps. -/
structure UsageError where
  fault : UsageFault
  usage : Option String := none
  deriving DecidableEq, Repr

namespace UsageFault

/-- A word in quotes. -/
def quote (s : String) : String := "'" ++ s ++ "'"

/-- The wording of a fault. -/
def message : UsageFault → String
  | helpAsked page | nothingGiven page => page
  | versionAsked version => version
  | missingCommand command names =>
    quote command ++ " requires a subcommand but one was not provided\n  [subcommands: " ++
      ", ".intercalate names ++ "]"
  | unknownCommand name _ => "unrecognized subcommand " ++ quote name
  | unknownArgument argument _ => "unexpected argument " ++ quote argument ++ " found"
  | unexpectedValue value option =>
    "unexpected value " ++ quote value ++ " for " ++ quote option ++
      " found; no more were expected"
  | missingValue option => "a value is required for " ++ quote option ++ " but none was supplied"
  | invalidValue value option reason =>
    "invalid value " ++ quote value ++ " for " ++ quote option ++ ": " ++ reason
  | repeated option => "the argument " ++ quote option ++ " cannot be used multiple times"
  | missingOptions options =>
    "the following required arguments were not provided:" ++
      String.join (options.map ("\n  " ++ ·))

/-- What may have been meant. -/
def tip? : UsageFault → Option String
  | unknownCommand _ [] => none
  | unknownCommand _ [name] => some ("a similar subcommand exists: " ++ quote name)
  | unknownCommand _ names =>
    some ("some similar subcommands exist: " ++ ", ".intercalate (names.map quote))
  | unknownArgument _ (some (.similarOption option)) =>
    some ("a similar argument exists: " ++ quote option)
  | unknownArgument _ (some (.elsewhere command option)) =>
    some (quote (command ++ " " ++ option) ++ " exists")
  | unknownArgument _ (some (.withoutDashes command)) =>
    some ("subcommand " ++ quote command ++ " exists; to use it, remove the '--' before it")
  | _ => none

/-- Whether an explanation stands for itself. -/
def isPage : UsageFault → Bool
  | helpAsked _ | nothingGiven _ | versionAsked _ => true
  | _ => false

/-- Whether only an explanation was asked for. -/
def isAnswer : UsageFault → Bool
  | helpAsked _ | versionAsked _ => true
  | _ => false

end UsageFault

/-- What is printed for an error. -/
def UsageError.text (e : UsageError) : String :=
  if e.fault.isPage then e.fault.message
  else
    "error: " ++ e.fault.message ++
      (match e.fault.tip? with | some tip => "\n\n  tip: " ++ tip | none => "") ++
      (match e.usage with | some usage => "\n\nUsage: " ++ usage | none => "") ++
      "\n\nFor more information, try '--help'.\n"

end LoadSwarm.CommandLine
