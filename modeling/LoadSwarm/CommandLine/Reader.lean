/-
  Reading command lines.

  * `Level`: what has been read of one command.  A value that stands apart from its
    option is checked only when the next option or the end is reached.
  * `readCommand`: the options of a command and of those below it, in the order of
    the words; a word that is a command below begins that command.
  * `Matches`: the commands that were named, with what was given to each.
-/
import LoadSwarm.CommandLine.Error
import LoadSwarm.CommandLine.Grammar
import LoadSwarm.CommandLine.Similarity

namespace LoadSwarm.CommandLine

/-- An option that was given, with its value if it has one. -/
structure Given where
  option : OptionRule
  value : Option String

/-- What has been read of a command. -/
structure Level where
  given : List Given := []
  /-- an option whose value is not checked yet, with that value once it is there -/
  pending : Option Given := none
  /-- whether the next word can be the value -/
  awaiting : Bool := false

/-- The commands that were named, with what was given to each. -/
abbrev Matches := List (String × List Given)

namespace Level

/-- The options that were given. -/
def used (l : Level) : List OptionRule := l.given.map (·.option)

/-- With an option, unless it was given before or its value is refused. -/
def give (l : Level) (g : Given) : Level × Option UsageFault :=
  if l.given.any (·.option.long = g.option.long) then
    ({ l with given := l.given.filter (·.option.long ≠ g.option.long) },
      some (.repeated g.option.text))
  else
    let l := { l with given := l.given ++ [g] }
    match g.value with
    | none => (l, none)
    | some v =>
      match g.option.check v with
      | none => (l, none)
      | some .absent => (l, some (.missingValue g.option.text))
      | some (.invalid reason) => (l, some (.invalidValue v g.option.text reason))

/-- With the pending option given. -/
def settle (l : Level) : Level × Option UsageFault :=
  match l.pending with
  | none => (l, none)
  | some g =>
    let l := { l with pending := none }
    match g.value with
    | none => (l, some (.missingValue g.option.text))
    | some _ => l.give g

/-- With the pending option and another one given. -/
def settleAndGive (l : Level) (g : Given) : Level × Option UsageFault :=
  match l.settle with
  | (l, none) => { l with awaiting := false }.give g
  | (l, some fault) => (l, some fault)

/-- With an option whose value is to follow. -/
def await (l : Level) (o : OptionRule) : Level × Option UsageFault :=
  match l.settle with
  | (l, none) => ({ l with pending := some ⟨o, none⟩, awaiting := true }, none)
  | (l, some fault) => (l, some fault)

/-- With the value that was awaited. -/
def supply (l : Level) (value : String) : Level :=
  { l with pending := l.pending.map fun g => { g with value := some value }, awaiting := false }

end Level

/-- A command on the way to be read: the names that lead to it, its rule, and the program's
    version. -/
structure Place where
  path : List String
  rule : CommandRule
  version : String

namespace Place

/-- An error that shows the form of the command. -/
def fail (p : Place) (fault : UsageFault) (used : List OptionRule := []) : UsageError :=
  ⟨fault, some (p.rule.usage p.path used)⟩

/-- A fault of an option, with the form of the command where that helps. -/
def failOption (p : Place) (fault : UsageFault) : UsageError :=
  match fault with
  | .repeated _ => p.fail fault
  | _ => ⟨fault, none⟩

/-- The outcome of an operation on a level. -/
def accept (p : Place) (r : Level × Option UsageFault) : Except UsageError Level :=
  match r with
  | (l, none) => .ok l
  | (_, some fault) => .error (p.failOption fault)

/-- An option without a value. -/
def takeFlag (p : Place) (l : Level) (o : OptionRule) : Except UsageError Level := do
  match o.effect with
  | .give => p.accept (l.settleAndGive ⟨o, none⟩)
  | .help =>
    let _ ← p.accept l.settle
    .error ⟨.helpAsked (p.rule.page p.path), none⟩
  | .version =>
    let _ ← p.accept l.settle
    .error ⟨.versionAsked (p.path.headD "" ++ " " ++ p.version ++ "\n"), none⟩

/-- An option with a value, which may be attached to it. -/
def takeOption (p : Place) (l : Level) (o : OptionRule) (attached : Option String) :
    Except UsageError Level :=
  match attached with
  | some v => p.accept (l.settleAndGive ⟨o, some v⟩)
  | none => p.accept (l.await o)

/-- The candidate with the least position, the first one of several. -/
def earliest : List (Nat × String × String) → Option (Nat × String × String)
  | [] => none
  | c :: cs =>
    match earliest cs with
    | some d => if d.1 < c.1 then some d else some c
    | none => some c

/-- The error for a long option that the command does not have. -/
def unknownLong (p : Place) (l : Level) (name : String) (rest : List String) : UsageError :=
  let l := l.settle.1
  match (similarTo name p.rule.longNames).getLast? with
  | some similar =>
    let meant := (p.rule.long? similar).toList
    p.fail (.unknownArgument ("--" ++ name) (some (.similarOption ("--" ++ similar)))) (l.used ++ meant)
  | none =>
    let elsewhere := p.rule.commands.filterMap fun c => do
      let similar ← (similarTo name c.longNames).getLast?
      let position ← rest.findIdx? (· = c.name)
      some (position, c.name, similar)
    p.fail (.unknownArgument ("--" ++ name) ((earliest elsewhere).map fun e => .elsewhere e.2.1 ("--" ++ e.2.2))) l.used

/-- A long option with the value that is attached to it by an equals sign. -/
def takeLong (p : Place) (l : Level) (name : String) (attached : Option String) (rest : List String) :
    Except UsageError Level :=
  match p.rule.long? name with
  | none => .error (p.unknownLong l name rest)
  | some o =>
    match o.placeholder, attached with
    | some _, attached => p.takeOption l o attached
    | none, none => p.takeFlag l o
    | none, some v =>
      .error (p.fail (.unexpectedValue v o.text) (l.used.filter (!·.required)))

/-- Short options behind one dash; what follows one with a value is that value. -/
def takeShorts (p : Place) (l : Level) : List Char → Except UsageError Level
  | [] => .ok l
  | c :: cs =>
    match p.rule.short? c with
    | none => .error (p.fail (.unknownArgument ("-" ++ c.toString) none))
    | some o =>
      match o.placeholder, cs with
      | none, cs => do takeShorts p (← p.takeFlag l o) cs
      | some _, [] => p.takeOption l o none
      | some _, '=' :: v => p.takeOption l o (some (String.ofList v))
      | some _, v => p.takeOption l o (some (String.ofList v))

/-- The error for a word that is neither an option nor a value nor a command. -/
def unexpected (p : Place) (dashes : Bool) (word : String) : UsageError :=
  if dashes && p.rule.namesBelow.contains word then
    p.fail (.unknownArgument word (some (.withoutDashes word)))
  else if p.rule.isGroup then p.fail (.unknownCommand word (similarTo word p.rule.namesBelow))
  else p.fail (.unknownArgument word none)

/-- The explanation of a command below, by the names that lead to it. -/
def explain (p : Place) : List String → UsageError
  | [] => ⟨.helpAsked (p.rule.page p.path), none⟩
  | name :: rest =>
    match p.rule.command? name with
    | some c => explain { p with path := p.path ++ [name], rule := c } rest
    | none =>
      if p.rule.isGroup && name = helpName then
        let path := p.path ++ [helpName]
        match rest with
        | [] => ⟨.helpAsked (helpPage path), none⟩
        | name :: _ => ⟨.unknownCommand name [], some (helpUsage path)⟩
      else p.fail (.unknownCommand name [])
termination_by names => names.length

/-- The end of a command with nothing below it. -/
def close (p : Place) (l : Level) : Except UsageError Level := do
  let l ← p.accept l.settle
  if p.rule.isGroup then
    if l.given.isEmpty then .error ⟨.nothingGiven (p.rule.page p.path), none⟩
    else .error (p.fail (.missingCommand (" ".intercalate p.path) p.rule.namesBelow))
  else
    let missing := p.rule.required.filter fun o => !l.given.any (·.option.long = o.long)
    if missing.isEmpty then return l
    else .error (p.fail (.missingOptions (missing.map (·.text))) (l.used ++ missing))

end Place

/-- The name of a long option with its attached value. -/
def longForm? (word : String) : Option (String × Option String) :=
  match word.toList with
  | '-' :: '-' :: cs =>
    let name := String.ofList (cs.takeWhile (· ≠ '='))
    match cs.dropWhile (· ≠ '=') with
    | '=' :: v => some (name, some (String.ofList v))
    | _ => some (name, none)
  | _ => none

/-- The letters of short options. -/
def shortForm? (word : String) : Option (List Char) :=
  match word.toList with
  | '-' :: c :: cs => some (c :: cs)
  | _ => none

/-- The commands that words name, and what they give to them, from a command on of which a
    part has been read.  After two dashes nothing is an option. -/
def readCommand (p : Place) (l : Level) (dashes : Bool) : List String → Except UsageError Matches
  | [] => do
    let l ← p.close l
    return [(p.rule.name, l.given)]
  | word :: rest =>
    if dashes then .error (p.unexpected true word)
    else if !l.awaiting && p.rule.namesBelow.contains word then
      match p.rule.command? word with
      | some c => do
        let found ← readCommand { p with path := p.path ++ [word], rule := c } {} false rest
        let l ← p.accept l.settle
        return (p.rule.name, l.given) :: found
      | none => .error (p.explain rest)
    else if word = "--" then readCommand p { l with awaiting := false } true rest
    else
      match longForm? word, shortForm? word with
      | some (name, attached), _ => do readCommand p (← p.takeLong l name attached rest) false rest
      | none, some cs => do readCommand p (← p.takeShorts l cs) false rest
      | none, none =>
        if l.awaiting then readCommand p (l.supply word) false rest
        else .error (p.unexpected false word)

/-- The commands that the words of a command line name. -/
def read (rule : CommandRule) (version : String) (words : List String) : Except UsageError Matches :=
  readCommand ⟨[rule.name], rule, version⟩ {} false words

namespace Matches

/-- The names of the commands below the first one. -/
def path (m : Matches) : List String := (m.map (·.1)).drop 1

/-- Whether an option was given. -/
def has (m : Matches) (long : String) : Bool := m.any fun c => c.2.any (·.option.long = long)

/-- The value of an option; the last command that has it counts. -/
def value? (m : Matches) (long : String) : Option String :=
  (m.reverse.flatMap (·.2)).findSome? fun g => if g.option.long = long then g.value else none

end Matches

end LoadSwarm.CommandLine
