/-
  What may stand on a command line.

  * `OptionRule`: an option, with or without a value.
  * `CommandRule`: a command with its options and the commands below it.
  * `CommandRule.usage`: the form of a command in one line.
  * `CommandRule.page`: all that may follow a command.
-/

namespace LoadSwarm.CommandLine

/-- Why the text of a value is refused. -/
inductive ValueFault where
  /-- an empty text is no value -/
  | absent
  | invalid (reason : String)
  deriving DecidableEq, Repr

/-- What an option does. -/
inductive OptionEffect where
  | give
  | help
  | version
  deriving DecidableEq, Repr

/-- An option. -/
structure OptionRule where
  long : String
  short : Option Char := none
  /-- what stands for the value; a plain flag has none -/
  placeholder : Option String := none
  help : String
  required : Bool := false
  /-- the value that counts without the option -/
  default : Option String := none
  /-- whether all commands have the option -/
  shared : Bool := false
  effect : OptionEffect := .give
  check : String → Option ValueFault := fun _ => none

/-- A command. -/
inductive CommandRule where
  | mk (name about : String) (options : List OptionRule) (commands : List CommandRule)

namespace OptionRule

/-- An option as it is written, with what stands for its value. -/
def text (o : OptionRule) : String :=
  "--" ++ o.long ++ (match o.placeholder with | some p => " <" ++ p ++ ">" | none => "")

/-- The options that are given by name alone. -/
def isBuiltIn (o : OptionRule) : Bool := o.effect ≠ .give

/-- The left side of the line of an option. -/
def margin (o : OptionRule) : String :=
  (match o.short with | some c => "-" ++ c.toString ++ ", " | none => "    ") ++ o.text

/-- The right side of the line of an option. -/
def remark (o : OptionRule) : String :=
  o.help ++ (match o.default with | some d => " [default: " ++ d ++ "]" | none => "")

end OptionRule

/-- The name of the command that explains the others. -/
def helpName : String := "help"

/-- What that command does. -/
def helpAbout : String := "Print this message or the help of the given subcommand(s)"

/-- Lines of two columns. -/
def columns (lines : List (String × String)) : String :=
  let width := (lines.map (·.1.length)).foldl max 0
  String.join (lines.map fun l => "  " ++ l.1.pushn ' ' (width - l.1.length) ++ "  " ++ l.2 ++ "\n")

namespace CommandRule

/-- The name of a command. -/
def name : CommandRule → String
  | mk name _ _ _ => name

/-- What a command does. -/
def about : CommandRule → String
  | mk _ about _ _ => about

/-- The options of a command, in the order in which they are explained. -/
def options : CommandRule → List OptionRule
  | mk _ _ options _ => options

/-- The commands below a command. -/
def commands : CommandRule → List CommandRule
  | mk _ _ _ commands => commands

/-- Whether a command needs another one below it. -/
def isGroup (c : CommandRule) : Bool := !c.commands.isEmpty

/-- The names below a command. -/
def namesBelow (c : CommandRule) : List String :=
  if c.isGroup then c.commands.map name ++ [helpName] else []

/-- The command below that has a name. -/
def command? (c : CommandRule) (name : String) : Option CommandRule := c.commands.find? (·.name = name)

/-- The option with a long name. -/
def long? (c : CommandRule) (long : String) : Option OptionRule := c.options.find? (·.long = long)

/-- The option with a short name. -/
def short? (c : CommandRule) (short : Char) : Option OptionRule := c.options.find? (·.short = some short)

/-- The long names of a command, its own before the shared and the built-in ones. -/
def longNames (c : CommandRule) : List String :=
  let own := c.options.filter fun o => !o.shared && !o.isBuiltIn
  let shared := c.options.filter fun o => o.shared && !o.isBuiltIn
  (own ++ shared ++ c.options.filter (·.isBuiltIn)).map (·.long)

/-- The options that a command needs. -/
def required (c : CommandRule) : List OptionRule := c.options.filter (·.required)

/-- The form of a command after the names that lead to it.  Once options were used, only they
    and the required ones are shown. -/
def usage (c : CommandRule) (path : List String) (used : List OptionRule) : String :=
  let free := c.options.any fun o => !o.isBuiltIn && !o.required
  let shown := ((c.required ++ used).map (·.text)).eraseDups
  " ".intercalate path ++ (if used.isEmpty && free then " [OPTIONS]" else "") ++
    String.join (shown.map (" " ++ ·)) ++ (if c.isGroup then " <COMMAND>" else "")

/-- All that may follow a command. -/
def page (c : CommandRule) (path : List String) : String :=
  let commands :=
    if c.isGroup then
      "Commands:\n" ++ columns (c.commands.map (fun b => (b.name, b.about)) ++ [(helpName, helpAbout)]) ++ "\n"
    else ""
  c.about ++ "\n\nUsage: " ++ c.usage path [] ++ "\n\n" ++ commands ++ "Options:\n" ++
    columns (c.options.map fun o => (o.margin, o.remark))

end CommandRule

/-- The form of the command that explains others. -/
def helpUsage (path : List String) : String := " ".intercalate path ++ " [COMMAND]..."

/-- The page of the command that explains others. -/
def helpPage (path : List String) : String :=
  helpAbout ++ "\n\nUsage: " ++ helpUsage path ++ "\n\nArguments:\n" ++
    columns [("[COMMAND]...", "Print help for the subcommand(s)")]

end LoadSwarm.CommandLine
