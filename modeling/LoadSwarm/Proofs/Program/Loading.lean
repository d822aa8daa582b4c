/-
  The ways to load a configuration.

  * `Configuration.load_eq`: loading is putting the layers together and validating them then.
  * `Environment.IsUnset`: none of the variables is set, so that a file alone counts
    (`layered_of_unset`).
  * `CommandOutcome.displayFile`: what is shown of a file; `validateFile_eq_ok_iff` and
    `displayFile_eq_ok_iff` are when the commands on a file succeed.
  * `Program.perform_validate`: what the program says of a file does not depend on the log.
  * `LoadsAlike`: in which way they all agree; `loads_alike` is that it holds for every environment and
    every tree of files.
-/
import LoadSwarm.Proofs.Config.Effective

namespace LoadSwarm

/-! ## Without flags and variables -/

/-- None of the variables is set. -/
def Environment.IsUnset (front : String) (env : Environment) : Prop :=
  ∀ v : Variable, env (v.name front) = none

/-- A layer without values changes nothing. -/
@[simp]
theorem Overrides.apply_none (c : Configuration) : Overrides.apply {} c = c := rfl

namespace Configuration

variable {front : String} {file : Option FileText} {env : Environment} {c : Configuration}

/-- A file is parsed as what its text describes. -/
theorem below_of_ofYaml {text : String} (h : ofYaml text = .ok c) : below (some (.ok text)) = .ok c := by
  unfold below parseFile
  dsimp only
  rw [h]

/-- **Without variables the file alone counts.** -/
theorem layered_of_unset (h : env.IsUnset front) : layered front file env = below file := by
  have hnone : Overrides.ofEnvironment front env = .ok {} := by
    unfold Overrides.ofEnvironment Environment.value
    simp only [h _]
    rfl
  rw [layered_eq]
  unfold underEnvironment
  rw [hnone]
  cases below file <;> rfl

/-- Without variables the commands are based on the file alone. -/
theorem ofFiles_of_unset {files : FileTree} {path : String} (h : env.IsUnset defaultFront)
    (hc : below (some (files.read ⟨path⟩)) = .ok c) : ofFiles env files (some path) = .ok c := by
  unfold ofFiles
  rw [layered_of_unset h, Option.map_some, hc]; rfl

/-- A configuration is loaded from a file in stages. -/
theorem ofFile_eq (front : String) (content : FileText) (env : Environment) :
    ofFile front content env = layered front (some content) env >>= validated := by
  rw [layered_eq]
  unfold ofFile
  show _ = (parseFile content >>= _) >>= _
  cases parseFile content <;> rfl

/-- A configuration is loaded from the environment in stages. -/
theorem ofEnvironment_eq (front : String) (env : Environment) :
    ofEnvironment front env = layered front none env >>= validated := rfl

/-- **Loading is putting the layers together and validating them then.** -/
theorem load_eq (front : String) (file : Option FileText) (env : Environment) :
    load front file env = layered front file env >>= validated := by
  cases file with
  | none => exact ofEnvironment_eq front env
  | some content => exact ofFile_eq front content env

/-- What is loaded is valid. -/
theorem load_eq_ok_iff :
    load front file env = .ok c ↔ layered front file env = .ok c ∧ c.validate = .ok () := by
  rw [load_eq, bind_eq_ok_iff]
  simp only [validated_eq_ok]
  constructor
  · rintro ⟨_, hlayered, rfl, hvalid⟩
    exact ⟨hlayered, hvalid⟩
  · rintro ⟨hlayered, hvalid⟩
    exact ⟨c, hlayered, rfl, hvalid⟩

end Configuration

/-- **A run without flags uses what is loaded.** -/
theorem Program.configurationOf_eq_ok_iff_load {env : Environment} {files : FileTree} {i : Invocation}
    {o : RunOptions} (h : o.overrides = {}) {c : Configuration} :
    configurationOf env files i o = .ok c ↔
      Configuration.load defaultFront (i.config.map fun p => files.read ⟨p⟩) env = .ok c := by
  unfold configurationOf Configuration.ofFiles
  rw [Configuration.load_eq, bind_eq_ok_iff, bind_eq_ok_iff, h]
  simp only [mapError_eq_ok_iff, Overrides.apply_none]

/-! ## The commands on a file -/

/-- A file that is read exists. -/
theorem FileTree.exists_of_read {t : FileTree} {p : FilePath} {text : String} (h : t.read p = .ok text) :
    t.exists_ p = true := by
  obtain ⟨entry, hentry, -⟩ := bind_eq_ok_iff.1 h
  unfold exists_
  rw [hentry]
  rfl

namespace CommandOutcome

/-- Shows the configuration of a file, or of the defaults without one, under the environment. -/
def displayFile (env : Environment) (files : FileTree) (path : Option String) : CommandOutcome :=
  match Configuration.ofFiles env files path with
  | .ok c => display c
  | .error e => { result := .error e }

variable {env : Environment} {files : FileTree} {path : String}

/-- A valid configuration is shown as its text. -/
theorem display_of_validate {c : Configuration} (h : c.validate = .ok ()) :
    display c = { output := c.yaml } := by
  unfold display Configuration.validated
  rw [h]

/-- What is shown of a file is the configuration that is loaded from it. -/
theorem displayFile_of_ofFiles {path : Option String} {c : Configuration}
    (h : Configuration.ofFiles env files path = .ok c) : displayFile env files path = display c := by
  unfold displayFile
  rw [h]

theorem display_eq_ok_iff {c : Configuration} : (display c).result = .ok () ↔ c.validate = .ok () := by
  unfold display Configuration.validated
  rcases c.validate with e | ⟨⟨⟩⟩ <;> simp

/-- **A file is shown if its configuration is valid** under the environment. -/
theorem displayFile_eq_ok_iff {path : Option String} : (displayFile env files path).result = .ok () ↔
    ∃ c, Configuration.layered defaultFront (path.map fun p => files.read ⟨p⟩) env = .ok c ∧
      c.validate = .ok () := by
  unfold displayFile Configuration.ofFiles
  rcases Configuration.layered defaultFront (path.map fun p => files.read ⟨p⟩) env with e | c
  · simp [Except.mapError]
  · simp [Except.mapError, display_eq_ok_iff]

/-- **A file passes if its configuration is valid** by itself. -/
theorem validateFile_eq_ok_iff : (validateFile files path).result = .ok () ↔
    ∃ c, Configuration.below (some (files.read ⟨path⟩)) = .ok c ∧ c.validate = .ok () := by
  have hcheck : checkFile files path = .ok () ↔
      ∃ c, Configuration.below (some (files.read ⟨path⟩)) = .ok c ∧ c.validate = .ok () := by
    unfold checkFile
    show _ ↔ ∃ c, Configuration.parseFile (files.read ⟨path⟩) = .ok c ∧ _
    rcases Configuration.parseFile (files.read ⟨path⟩) with e | c
    · simp [Except.bind]
    · unfold Configuration.validated
      rcases hv : c.validate with e | ⟨⟨⟩⟩ <;> simp [Except.bind, hv]
  rw [← hcheck]
  unfold validateFile
  rcases hread : files.read ⟨path⟩ with e | text
  · -- what cannot be read fails, be it there or not
    have hfails : checkFile files path = .error (.badFile path (.unreadable e)) := by
      unfold checkFile Configuration.parseFile
      rw [hread]
      rfl
    rw [hfails]
    cases files.exists_ ⟨path⟩ <;> simp
  · rw [FileTree.exists_of_read hread, if_pos rfl]
    rcases checkFile files path with e | ⟨⟨⟩⟩ <;> simp

end CommandOutcome

/-! ## The program -/

/-- What an ending says apart from the log. -/
def Ending.answer (e : Ending) : Nat × String × String := (e.status, e.output, e.complaint)

/-- What a command comes to apart from the log. -/
def CommandOutcome.answer (o : CommandOutcome) : Nat × String × String :=
  match o.result with
  | .ok () => (0, o.output, "")
  | .error e => (1, o.output, e.report)

namespace Program

variable {patterns : PatternReader} {env env' : Environment} {files : FileTree}
  {stamp : Option String} {i : Invocation} {sink : LogSink} {path : String}

/-- The log does not change what a command comes to. -/
theorem ofOutcome_answer (sink : LogSink) (stamp : Option String) (o : CommandOutcome) :
    (ofOutcome sink stamp o).answer = o.answer := by
  unfold ofOutcome CommandOutcome.answer
  rcases o.result with e | ⟨⟨⟩⟩ <;> rfl

/-- **What the program says of a file** is what the command says, once there is a log. -/
theorem perform_validate (hi : i.command = .validate path) (hsink : sinkOf patterns env i {} = .ok sink) :
    perform patterns env files stamp i =
      .ok (files, .ended (ofOutcome sink stamp (CommandOutcome.validateFile files path))) := by
  unfold perform
  rw [hi]
  dsimp only
  rw [hsink]
  rfl

end Program

/-- **The ways to load a configuration agree**, under an environment and in a tree of files. -/
structure LoadsAlike (env : Environment) (files : FileTree) : Prop where
  /-- loading is putting the layers together and validating them then, with the errors of both -/
  staged : ∀ front file, Configuration.load front file env =
    Configuration.layered front file env >>= Configuration.validated
  fromFile : ∀ front content, Configuration.ofFile front content env =
    Configuration.layered front (some content) env >>= Configuration.validated
  fromEnvironment : ∀ front, Configuration.ofEnvironment front env =
    Configuration.layered front none env >>= Configuration.validated
  /-- a run without flags uses what is loaded -/
  run : ∀ (i : Invocation) (o : RunOptions) (c : Configuration), o.overrides = {} →
    (Program.configurationOf env files i o = .ok c ↔
      Configuration.load defaultFront (i.config.map fun p => files.read ⟨p⟩) env = .ok c)
  /-- whether a file passes does not depend on the environment, which only sets up the log -/
  checked : ∀ (patterns : PatternReader) (env' : Environment) (stamp : Option String) (i : Invocation)
    (path : String) (sink sink' : LogSink), i.command = .validate path → Program.sinkOf patterns env i {} = .ok sink →
    Program.sinkOf patterns env' i {} = .ok sink' → ∃ e e',
      Program.perform patterns env files stamp i = .ok (files, .ended e) ∧
      Program.perform patterns env' files stamp i = .ok (files, .ended e') ∧ e.answer = e'.answer ∧
      (e.status = 0 ↔ (CommandOutcome.validateFile files path).result = .ok ())
  /-- without variables a file passes if a run of it without flags is accepted -/
  passesAsRun : env.IsUnset defaultFront → ∀ (path : String) (i : Invocation) (o : RunOptions),
    i.config = some path → o.overrides = {} →
    ((CommandOutcome.validateFile files path).result = .ok () ↔
      ∃ c, Program.configurationOf env files i o = .ok c)
  /-- without variables a file passes if it is shown -/
  passesAsShown : env.IsUnset defaultFront → ∀ path : String,
    ((CommandOutcome.validateFile files path).result = .ok () ↔
      (CommandOutcome.displayFile env files (some path)).result = .ok ())

/-- **The ways to load a configuration agree**, for every environment, and every path in every tree of
    files. -/
theorem loads_alike (env : Environment) (files : FileTree) : LoadsAlike env files where
  staged front file := Configuration.load_eq front file env
  fromFile front content := Configuration.ofFile_eq front content env
  fromEnvironment front := Configuration.ofEnvironment_eq front env
  run i o c h := Program.configurationOf_eq_ok_iff_load h
  checked patterns env' stamp i path sink sink' hi hsink hsink' := by
    refine ⟨_, _, Program.perform_validate hi hsink, Program.perform_validate hi hsink', ?_, ?_⟩
    · rw [Program.ofOutcome_answer, Program.ofOutcome_answer]
    · unfold Program.ofOutcome
      rcases (CommandOutcome.validateFile files path).result with e | ⟨⟨⟩⟩ <;>
        simp [Program.ofError]
  passesAsRun hunset path i o hi ho := by
    rw [CommandOutcome.validateFile_eq_ok_iff]
    simp only [Program.configurationOf_eq_ok_iff_load ho, Configuration.load_eq_ok_iff,
      Configuration.layered_of_unset hunset, hi, Option.map_some]
  passesAsShown hunset path := by
    rw [CommandOutcome.validateFile_eq_ok_iff, CommandOutcome.displayFile_eq_ok_iff,
      Configuration.layered_of_unset hunset, Option.map_some]

end LoadSwarm
