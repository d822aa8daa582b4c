/-
  Why a command fails.

  * `CommandError`: the reasons.
  * `CommandError.chain`: the wording of a reason, followed by that of the causes
    below it.
  * `CommandError.report`: the text that the program ends with.
-/
import LoadSwarm.Config.Layers
import LoadSwarm.Http.Client
import LoadSwarm.Log.Filter
import LoadSwarm.Swarm.State

namespace LoadSwarm

/-- Why a command fails. -/
inductive CommandError where
  /-- no configuration could be read from a file, or from the environment alone -/
  | notLoaded (path : Option String) (e : ConfigError)
  /-- the options of a run do not make a valid configuration -/
  | notAccepted (e : ConfigError)
  /-- the configuration that would be shown is not valid -/
  | notShown (e : ConfigError)
  | badFilter (e : FilterError)
  | noFile (path : String)
  | badFile (path : String) (e : ConfigError)
  | fileExists (path : String)
  | noDirectory (e : FileError)
  | notWritten (path : String) (e : FileError)
  | noClient (e : HttpError)
  | badSettings (e : SettingsError)
  | runFailed (e : RunFailure)
  deriving DecidableEq

namespace CommandError

/-- The wording, followed by the causes below it. -/
def chain : CommandError → List String
  | notLoaded (some path) e => ("Failed to load configuration from " ++ Text.quotedPath path) :: e.chain
  | notLoaded none e => "Failed to load configuration from environment" :: e.chain
  | notAccepted e => "Invalid configuration" :: e.chain
  | notShown e => "Effective configuration is invalid" :: e.chain
  | badFilter e => e.chain
  | noFile path => ["Configuration file not found: " ++ Text.quotedPath path]
  | badFile path e => ("Invalid configuration file " ++ Text.quotedPath path) :: e.chain
  | fileExists path =>
    ["Output file already exists: " ++ Text.quotedPath path ++ ". Use --force to overwrite."]
  | noDirectory e => ["Failed to create output directory", e.message]
  | notWritten path e => [("Failed to write configuration to " ++ Text.quotedPath path), e.message]
  | noClient e => "Failed to create HTTP client" :: e.message?.toList
  | badSettings e => ["Invalid swarm settings", e.message]
  | runFailed (.allUsersFailed users first) =>
    [RunFailure.message (.allUsersFailed users first), first.message]
  | runFailed (.crashed message) => [message]

/-- The wording with all causes, on one line. -/
def message (e : CommandError) : String := ": ".intercalate e.chain

/-- A text whose further lines are indented. -/
def indented (margin : String) (s : String) : String := ("\n" ++ margin).intercalate (Text.split '\n' s)

/-- A cause with its number. -/
def numbered (i : Nat) (s : String) : String :=
  let number := toString i
  "".pushn ' ' (5 - number.length) ++ number ++ ": " ++ indented "       " s

/-- The causes below a reason; they are numbered if there are several. -/
def causesText : List String → String
  | [] => ""
  | [cause] => "\n\nCaused by:\n    " ++ indented "    " cause
  | causes => "\n\nCaused by:\n" ++ "\n".intercalate (causes.mapIdx numbered)

/-- The text that the program ends with. -/
def report (e : CommandError) : String :=
  match e.chain with
  | [] => ""
  | reason :: causes => "Error: " ++ reason ++ causesText causes ++ "\n"

end CommandError

end LoadSwarm
