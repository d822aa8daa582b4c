/-
  The commands on configuration files.

  * `CommandOutcome`: what a command prints, logs and comes to.
  * `Configuration.ofFiles`: the configuration that a run is based on.
  * `validateFile`, `generateFile`, `display`: the commands.  A file is only ever
    written by `generateFile`, and only where nothing was unless it is told to.
-/
import LoadSwarm.Config.Writer
import LoadSwarm.Files.Tree
import LoadSwarm.Log.Record
import LoadSwarm.Program.Error

namespace LoadSwarm

/-- What a command prints, logs and comes to. -/
structure CommandOutcome where
  log : List LogRecord := []
  output : String := ""
  result : Except CommandError Unit := .ok ()

/-- The configuration of a file, or of the defaults without one, under the environment. -/
def Configuration.ofFiles (env : Environment) (files : FileTree) (path : Option String) :
    Except CommandError Configuration :=
  (Configuration.layered defaultFront (path.map fun p => files.read ⟨p⟩) env).mapError
    (.notLoaded path)

namespace CommandOutcome

/-- Where the commands on configuration files log. -/
def origin : String := "clusterload::commands::config"

/-- The record of a file that is about to be read. -/
def reading (path : String) : LogRecord :=
  { level := .debug
    origin := "clusterload_config::loader"
    message := "Loading configuration from " ++ path }

/-- Whether the configuration in a file is valid as it is. -/
def checkFile (files : FileTree) (path : String) : Except CommandError Unit :=
  match (Configuration.parseFile (files.read ⟨path⟩)).bind Configuration.validated with
  | .ok _ => .ok ()
  | .error e => .error (.badFile path e)

/-- Says whether the configuration in a file is valid. -/
def validateFile (files : FileTree) (path : String) : CommandOutcome :=
  let asked : LogRecord :=
    { level := .info
      origin := origin
      message := "Validating configuration file: " ++ Text.quotedPath path }
  if files.exists_ ⟨path⟩ then
    match checkFile files path with
    | .ok () =>
      { log := [asked, reading path], output := "Configuration file is valid\n" }
    | .error e =>
      let failed : LogRecord :=
        { level := .error
          origin := origin
          message := "Configuration validation failed: " ++ e.message }
      { log := [asked, reading path, failed], result := .error e }
  else { log := [asked], result := .error (.noFile path) }

/-- Writes the sample configuration to a file; one that exists is kept unless `force` is
    set. -/
def generateFile (files : FileTree) (path : String) (force : Bool) : FileTree × CommandOutcome :=
  if files.exists_ ⟨path⟩ && !force then (files, { result := .error (.fileExists path) })
  else
    match files.makeRoom ⟨path⟩ with
    | (files, .error e) => (files, { result := .error (.noDirectory e) })
    | (files, .ok ()) =>
      match files.write ⟨path⟩ (.text Configuration.sample.yaml) with
      | .ok files =>
        (files, { output := "Sample configuration written to " ++ Text.quotedPath path ++ "\n" })
      | .error e => (files, { result := .error (.notWritten path e) })

/-- Shows a configuration, if it is valid. -/
def display (c : Configuration) : CommandOutcome :=
  match c.validated with
  | .ok c => { output := c.yaml }
  | .error e => { result := .error (.notShown e) }

end CommandOutcome

end LoadSwarm
