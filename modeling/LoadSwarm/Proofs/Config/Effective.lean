/-
  The configuration that a run uses: a file or the defaults, under the environment, under the flags.

  * `RunFlags`: what a command line can change; `Configuration.effective`: all layers in turn.
  * `Program.configurationOf_eq_ok_iff`: this is the configuration that a run uses.
  * `Overrides.ofEnvironment_eq`: the variables give values, unless one is refused; the first one
    that is refused is the error.
  * `FromLayers`: the value of a flag, else that of a variable, else the one below.
  * `InLayers`: all fields of a configuration by their layers; `inLayers_iff`: there is just one.
  * `Effective`: what comes of the layers, and when nothing does; `effective_result` is that it holds
    for every file, environment and flags.
-/
import LoadSwarm.Program.Course
import LoadSwarm.Proofs.Config.Described

namespace LoadSwarm

/-! ## Flags -/

/-- The flags that change the configuration of a run, as far as they are given. -/
structure RunFlags where
  host : Option String := none
  users : Option UInt32 := none
  spawnRate : Option Binary64 := none
  /-- in seconds -/
  runTime : Option UInt64 := none
  pacing : Option Pacing := none
  seed : Option UInt64 := none

/-- The layer of the flags. -/
def RunFlags.overrides (f : RunFlags) : Overrides :=
  { host := f.host
    users := f.users
    spawnRate := f.spawnRate
    runTime := f.runTime.map Duration.ofSeconds
    pacing := f.pacing
    seed := f.seed }

/-- The flags of a command line. -/
def RunFlags.ofMatches (m : CommandLine.Matches) : RunFlags :=
  { host := m.value? "host"
    users := ValueReader.nat32.get? m "users"
    spawnRate := ValueReader.float.get? m "spawn-rate"
    runTime := ValueReader.nat64.get? m "run-time"
    pacing := ValueReader.pacing.get? m "wait"
    seed := ValueReader.nat64.get? m "seed" }

/-- They are what the options of a run hold. -/
theorem RunOptions.ofMatches_overrides (m : CommandLine.Matches) :
    (RunOptions.ofMatches m).overrides = (RunFlags.ofMatches m).overrides := by
  have hseconds : ValueReader.seconds.get? m "run-time" =
      (ValueReader.nat64.get? m "run-time").map Duration.ofSeconds := by
    unfold ValueReader.get? ValueReader.seconds
    rw [Option.map_bind]
    congr 1
    funext text
    rcases hnat : ValueReader.nat64 text with fault | n <;> simp only [Function.comp, hnat] <;> rfl
  unfold RunOptions.ofMatches RunFlags.ofMatches RunFlags.overrides
  rw [hseconds]

namespace Configuration

/-- What a file gives, or the defaults without one. -/
def below (file : Option FileText) : Except ConfigError Configuration :=
  match file with
  | some content => parseFile content
  | none => .ok {}

/-- The layers that are not validated are what is below, under the environment. -/
theorem layered_eq (front : String) (file : Option FileText) (env : Environment) :
    layered front file env = below file >>= fun c => c.underEnvironment front env := by
  cases file <;> rfl

/-- The configuration of all layers.  It is validated when all are in place. -/
def effective (front : String) (file : Option FileText) (env : Environment) (flags : RunFlags) :
    Except ConfigError Configuration := do
  let c ← layered front file env
  (flags.overrides.apply c).validated

end Configuration

/-- Another wording of errors does not change a result. -/
theorem mapError_eq_ok_iff {α ε ε' : Type} {x : Except ε α} {f : ε → ε'} {a : α} :
    x.mapError f = .ok a ↔ x = .ok a := by
  cases x <;> simp [Except.mapError]

/-- **A run that is invoked uses this configuration.** -/
theorem Program.configurationOf_eq_ok_iff {env : Environment} {files : FileTree} {i : Invocation}
    {m : CommandLine.Matches} {c : Configuration} :
    configurationOf env files i (RunOptions.ofMatches m) = .ok c ↔
      Configuration.effective defaultFront (i.config.map fun p => files.read ⟨p⟩) env
        (RunFlags.ofMatches m) = .ok c := by
  unfold configurationOf Configuration.effective Configuration.ofFiles
  rw [RunOptions.ofMatches_overrides, bind_eq_ok_iff, bind_eq_ok_iff]
  simp only [mapError_eq_ok_iff]

/-! ## Variables -/

namespace Environment

variable {α β : Type} (env : Environment) (front : String) (v : Variable)
  (read : String → String → Except ConfigError α)

/-- The value of a variable that is set and can be read. -/
def value? : Option α := (env (v.name front)).bind fun text => (read (v.name front) text).toOption

/-- Why a variable that is set cannot be read. -/
def refusal? : Option ConfigError :=
  (env (v.name front)).bind fun text =>
    match read (v.name front) text with
    | .ok _ => none
    | .error e => some e

/-- A variable is refused, or what follows goes on with its value. -/
theorem value_bind (k : Option α → Except ConfigError β) :
    env.value front v read >>= k =
      (env.refusal? front v read).elim (k (env.value? front v read)) .error := by
  unfold value refusal? value?
  rcases env (v.name front) with _ | text
  · rfl
  · rcases hread : read (v.name front) text with e | a <;> simp only [Option.bind_some, hread] <;> rfl

end Environment

/-- Why the text of a variable cannot be read: each has its own form. -/
def Variable.refusal? (front : String) (env : Environment) (v : Variable) : Option ConfigError :=
  match v with
  | host => env.refusal? front host Environment.readText
  | users => env.refusal? front users Environment.readNat32
  | spawnRate => env.refusal? front spawnRate Environment.readFloat
  | runTime => env.refusal? front runTime Environment.readSeconds
  | wait => env.refusal? front wait Environment.readPacing
  | seed => env.refusal? front seed Environment.readNat64
  | timeout => env.refusal? front timeout Environment.readSeconds
  | userAgent => env.refusal? front userAgent Environment.readText
  | verifyCertificates => env.refusal? front verifyCertificates Environment.readBool
  | level => env.refusal? front level Environment.readLevel
  | format => env.refusal? front format Environment.readFormat

/-- The refusal of the first variable that is refused. -/
def Variable.firstRefusal? (front : String) (env : Environment) : Option ConfigError :=
  Variable.all.findSome? (refusal? front env)

/-- The values of the variables that are set. -/
def Overrides.ofVariables (front : String) (env : Environment) : Overrides :=
  { host := env.value? front .host Environment.readText
    users := env.value? front .users Environment.readNat32
    spawnRate := env.value? front .spawnRate Environment.readFloat
    runTime := env.value? front .runTime Environment.readSeconds
    pacing := env.value? front .wait Environment.readPacing
    seed := env.value? front .seed Environment.readNat64
    timeout := env.value? front .timeout Environment.readSeconds
    userAgent := env.value? front .userAgent Environment.readText
    verifyCertificates := env.value? front .verifyCertificates Environment.readBool
    level := env.value? front .level Environment.readLevel
    format := env.value? front .format Environment.readFormat }

/-- **The layer of the environment**: the values of the variables, or the first refusal. -/
theorem Overrides.ofEnvironment_eq (front : String) (env : Environment) :
    ofEnvironment front env =
      (Variable.firstRefusal? front env).elim (.ok (ofVariables front env)) .error := by
  have hcons (v : Variable) (vs : List Variable) (x : Except ConfigError Overrides) :
      ((v :: vs).findSome? (Variable.refusal? front env)).elim x .error =
        (v.refusal? front env).elim ((vs.findSome? (Variable.refusal? front env)).elim x .error)
          .error := by
    rw [List.findSome?_cons]
    cases v.refusal? front env <;> rfl
  unfold ofEnvironment Variable.firstRefusal? Variable.all
  simp only [Environment.value_bind, hcons]
  rfl

theorem Variable.mem_all (v : Variable) : v ∈ Variable.all := by cases v <;> decide

theorem Variable.firstRefusal?_eq_none_iff {front : String} {env : Environment} :
    firstRefusal? front env = none ↔ ∀ v : Variable, v.refusal? front env = none :=
  List.findSome?_eq_none_iff.trans
    ⟨fun h v => h v v.mem_all, fun h v _ => h v⟩

/-- Only the text of a variable counts for its value and its refusal. -/
theorem Environment.value?_congr {α : Type} {env env' : Environment} {front : String} {v : Variable}
    (h : env' (v.name front) = env (v.name front)) (read : String → String → Except ConfigError α) :
    env'.value? front v read = env.value? front v read := by
  unfold value?; rw [h]

theorem Variable.refusal?_congr {env env' : Environment} {front : String} {v : Variable}
    (h : env' (v.name front) = env (v.name front)) :
    v.refusal? front env' = v.refusal? front env := by
  cases v <;> (unfold refusal? Environment.refusal?; rw [h])

/-! ## Layers of a field -/

/-- **The value of a field in its layers**: that of the flag if it is given, else that of the text of
    the variable if it is set, else the one below. -/
inductive FromLayers {α : Type} (flag : Option α) (text : Option String)
    (read : String → Except ConfigError α) (below : α) : α → Prop
  | flag {a : α} : flag = some a → FromLayers flag text read below a
  | variable {t : String} {a : α} :
    flag = none → text = some t → read t = .ok a → FromLayers flag text read below a
  | below : flag = none → text = none → FromLayers flag text read below below

section
variable {α : Type} {front : String} {env : Environment} {v : Variable}
  {read : String → String → Except ConfigError α}

/-- A variable that is not refused is unset, or its text is read as its value. -/
theorem Environment.value?_cases (h : env.refusal? front v read = none) :
    (env (v.name front) = none ∧ env.value? front v read = none) ∨
      ∃ t a, env (v.name front) = some t ∧ read (v.name front) t = .ok a ∧
        env.value? front v read = some a := by
  unfold refusal? at h
  unfold value?
  rcases ht : env (v.name front) with _ | t
  · exact .inl ⟨rfl, rfl⟩
  · rw [ht, Option.bind_some] at h
    rcases hread : read (v.name front) t with e | a
    · rw [hread] at h; cases h
    · exact .inr ⟨t, a, rfl, hread, by rw [Option.bind_some, hread]; rfl⟩

theorem fromLayers_iff (h : env.refusal? front v read = none) {flag : Option α} {below a : α} :
    FromLayers flag (env (v.name front)) (read (v.name front)) below a ↔
      a = flag.getD ((env.value? front v read).getD below) := by
  rcases flag with _ | x
  · rcases Environment.value?_cases h with ⟨ht, hv⟩ | ⟨t, b, ht, hread, hv⟩
    · rw [hv, ht]
      constructor
      · rintro (h | ⟨-, h, -⟩ | -)
        · cases h
        · cases h
        · rfl
      · rintro rfl
        exact .below rfl rfl
    · rw [hv, ht]
      constructor
      · rintro (h | ⟨-, h, hr⟩ | ⟨-, h⟩)
        · cases h
        · cases h
          exact Except.ok.inj (hr.symm.trans hread)
        · cases h
      · rintro rfl
        exact .variable rfl rfl hread
  · constructor
    · rintro (h | ⟨h, -, -⟩ | ⟨h, -⟩)
      · exact (Option.some.inj h).symm
      · cases h
      · cases h
    · rintro rfl
      exact .flag rfl

/-- A field that may be without a value keeps one below it, unless a layer sets another one. -/
theorem fromLayers_some_iff (h : env.refusal? front v read = none) {flag below a : Option α} :
    FromLayers (flag.map some) (env (v.name front)) (fun t => some <$> read (v.name front) t) below a ↔
      a = flag.or ((env.value? front v read).or below) := by
  have hsome : env.refusal? front v (fun name t => some <$> read name t) = none := by
    rcases Environment.value?_cases h with ⟨ht, -⟩ | ⟨t, b, ht, hread, -⟩
    · unfold Environment.refusal?; rw [ht]; rfl
    · unfold Environment.refusal?
      rw [ht, Option.bind_some]
      dsimp only
      rw [hread]
      rfl
  have hvalue : env.value? front v (fun name t => some <$> read name t) =
      (env.value? front v read).map some := by
    unfold Environment.value?
    rw [Option.map_bind]
    congr 1
    funext t
    show (some <$> read (v.name front) t).toOption = ((read (v.name front) t).toOption).map some
    cases read (v.name front) t <;> rfl
  rw [fromLayers_iff hsome, hvalue]
  cases flag <;> cases env.value? front v read <;> rfl

end

/-! ## All layers -/

namespace Configuration

variable {front : String} {file : Option FileText} {env : Environment} {flags : RunFlags}

/-- **The fields of a configuration by their layers**: flags and variables over `base`. -/
structure InLayers (front : String) (env : Environment) (flags : RunFlags) (base c : Configuration) :
    Prop where
  host : FromLayers flags.host (env (Variable.host.name front))
    (Environment.readText (Variable.host.name front)) base.target.host c.target.host
  users : FromLayers flags.users (env (Variable.users.name front))
    (Environment.readNat32 (Variable.users.name front)) base.swarm.users c.swarm.users
  spawnRate : FromLayers flags.spawnRate (env (Variable.spawnRate.name front))
    (Environment.readFloat (Variable.spawnRate.name front)) base.swarm.spawnRate c.swarm.spawnRate
  runTime : FromLayers ((flags.runTime.map Duration.ofSeconds).map some)
    (env (Variable.runTime.name front))
    (fun t => some <$> Environment.readSeconds (Variable.runTime.name front) t)
    base.swarm.runTime c.swarm.runTime
  pacing : FromLayers flags.pacing (env (Variable.wait.name front))
    (Environment.readPacing (Variable.wait.name front)) base.swarm.pacing c.swarm.pacing
  seed : FromLayers (flags.seed.map some) (env (Variable.seed.name front))
    (fun t => some <$> Environment.readNat64 (Variable.seed.name front) t)
    base.swarm.seed c.swarm.seed
  timeout : FromLayers none (env (Variable.timeout.name front))
    (Environment.readSeconds (Variable.timeout.name front)) base.client.timeout c.client.timeout
  userAgent : FromLayers none (env (Variable.userAgent.name front))
    (Environment.readText (Variable.userAgent.name front)) base.client.userAgent c.client.userAgent
  verifyCertificates : FromLayers none (env (Variable.verifyCertificates.name front))
    (Environment.readBool (Variable.verifyCertificates.name front)) base.client.verifyCertificates
    c.client.verifyCertificates
  level : FromLayers none (env (Variable.level.name front))
    (Environment.readLevel (Variable.level.name front)) base.log.level c.log.level
  format : FromLayers none (env (Variable.format.name front))
    (Environment.readFormat (Variable.format.name front)) base.log.format c.log.format
  identifiers : c.target.identifiers = base.target.identifiers
  maxRedirects : c.client.maxRedirects = base.client.maxRedirects
  pool : c.client.pool = base.client.pool
  filter : c.log.filter = base.log.filter

/-- **There is one configuration in all layers**, if no variable is refused. -/
theorem inLayers_iff (h : ∀ v : Variable, v.refusal? front env = none) {base c : Configuration} :
    InLayers front env flags base c ↔
      c = flags.overrides.apply ((Overrides.ofVariables front env).apply base) := by
  -- any text is a value of these two
  have hhost : env.refusal? front .host Environment.readText = none := h .host
  have hagent : env.refusal? front .userAgent Environment.readText = none := h .userAgent
  constructor
  · intro hc
    have host := (fromLayers_iff hhost).1 hc.host
    have users := (fromLayers_iff (h .users)).1 hc.users
    have spawnRate := (fromLayers_iff (h .spawnRate)).1 hc.spawnRate
    have runTime := (fromLayers_some_iff (h .runTime)).1 hc.runTime
    have pacing := (fromLayers_iff (h .wait)).1 hc.pacing
    have seed := (fromLayers_some_iff (h .seed)).1 hc.seed
    have timeout := (fromLayers_iff (h .timeout)).1 hc.timeout
    have userAgent := (fromLayers_iff hagent).1 hc.userAgent
    have verify := (fromLayers_iff (h .verifyCertificates)).1 hc.verifyCertificates
    have level := (fromLayers_iff (h .level)).1 hc.level
    have format := (fromLayers_iff (h .format)).1 hc.format
    obtain ⟨-, -, -, -, -, -, -, -, -, -, -, identifiers, maxRedirects, pool, filter⟩ := hc
    obtain ⟨⟨_, _⟩, ⟨_, _, _, _, _⟩, ⟨_, _, _, _, _⟩, ⟨_, _, _⟩⟩ := c
    dsimp only at *
    subst host users spawnRate runTime pacing seed timeout userAgent verify level format identifiers
      maxRedirects pool filter
    rfl
  · rintro rfl
    exact
      { host := (fromLayers_iff hhost).2 rfl
        users := (fromLayers_iff (h .users)).2 rfl
        spawnRate := (fromLayers_iff (h .spawnRate)).2 rfl
        runTime := (fromLayers_some_iff (h .runTime)).2 rfl
        pacing := (fromLayers_iff (h .wait)).2 rfl
        seed := (fromLayers_some_iff (h .seed)).2 rfl
        timeout := (fromLayers_iff (h .timeout)).2 rfl
        userAgent := (fromLayers_iff hagent).2 rfl
        verifyCertificates := (fromLayers_iff (h .verifyCertificates)).2 rfl
        level := (fromLayers_iff (h .level)).2 rfl
        format := (fromLayers_iff (h .format)).2 rfl
        identifiers := rfl
        maxRedirects := rfl
        pool := rfl
        filter := rfl }

/-- **All layers in one equation.** -/
theorem effective_eq (front : String) (file : Option FileText) (env : Environment)
    (flags : RunFlags) :
    effective front file env flags = (below file >>= fun base =>
      (Variable.firstRefusal? front env).elim
        (flags.overrides.apply ((Overrides.ofVariables front env).apply base)).validated .error) := by
  have hunder (base : Configuration) : base.underEnvironment front env =
      (Variable.firstRefusal? front env).elim (.ok ((Overrides.ofVariables front env).apply base))
        .error := by
    unfold underEnvironment
    rw [Overrides.ofEnvironment_eq]
    cases Variable.firstRefusal? front env <;> rfl
  unfold effective
  rw [layered_eq]
  rcases below file with e | base
  · rfl
  · show (base.underEnvironment front env >>= _) = _
    rw [hunder]
    cases Variable.firstRefusal? front env <;> rfl

/-- **Why the layers give no configuration**: the file cannot be read, or is no configuration; or a
    variable is refused and none before it is; or the configuration of all layers is not valid. -/
inductive Refused (front : String) (file : Option FileText) (env : Environment) (flags : RunFlags) :
    ConfigError → Prop
  | unreadable {e : FileError} : file = some (.error e) → Refused front file env flags (.unreadable e)
  | unparsable {text : String} {e : Yaml.YamlError} : file = some (.ok text) → ofYaml text = .error e →
    Refused front file env flags (.unparsable e)
  | variable {base : Configuration} {before after : List Variable} {v : Variable} {e : ConfigError} :
    below file = .ok base → Variable.all = before ++ v :: after →
    (∀ u ∈ before, u.refusal? front env = none) → v.refusal? front env = some e →
    Refused front file env flags e
  | invalid {base c : Configuration} {e : DomainError} : below file = .ok base →
    (∀ v : Variable, v.refusal? front env = none) → InLayers front env flags base c →
    c.validate = .error e → Refused front file env flags (.invalid e)

theorem below_eq_error_iff {e : ConfigError} :
    below file = .error e ↔ (∃ f, file = some (.error f) ∧ e = .unreadable f) ∨
      ∃ text y, file = some (.ok text) ∧ ofYaml text = .error y ∧ e = .unparsable y := by
  unfold below parseFile
  rcases file with _ | f | text
  · simp
  · simp [eq_comm]
  · rcases hy : ofYaml text with y | c
    · simp [hy, eq_comm]
    · simp [hy]

/-- **What comes of the layers.** -/
structure Effective (front : String) (file : Option FileText) (env : Environment)
    (flags : RunFlags) : Prop where
  /-- without a file there are the defaults; a file gives what it describes -/
  base : ∀ c, below file = .ok c → (file = none ∧ c = {}) ∨
    ∃ text, file = some (.ok text) ∧ DescribedBy (Yaml.Document.ofText text) c
  /-- a configuration is the one of all layers, and it is valid -/
  accepted : ∀ c, effective front file env flags = .ok c ↔ ∃ base, below file = .ok base ∧
    (∀ v : Variable, v.refusal? front env = none) ∧ InLayers front env flags base c ∧
      c.validate = .ok ()
  /-- an error is one of the file, of the first variable that is refused, or of the validation -/
  refused : ∀ e, effective front file env flags = .error e ↔ Refused front file env flags e
  /-- no other variable counts -/
  others : ∀ env' : Environment, (∀ v : Variable, env' (v.name front) = env (v.name front)) →
    effective front file env' flags = effective front file env flags

/-- **The layers of a configuration, for every file, environment and flags.** -/
theorem effective_result (front : String) (file : Option FileText) (env : Environment)
    (flags : RunFlags) : Effective front file env flags where
  base c h := by
    unfold below parseFile at h
    rcases file with _ | f | text
    · cases h; exact .inl ⟨rfl, rfl⟩
    · cases h
    · rcases hy : ofYaml text with y | c'
      · simp only [hy] at h; cases h
      · simp only [hy] at h; cases h
        exact .inr ⟨text, rfl, describedBy_of_ofYaml hy⟩
  accepted c := by
    rw [effective_eq, bind_eq_ok_iff]
    refine exists_congr fun base => and_congr_right fun _ => ?_
    rcases hfirst : Variable.firstRefusal? front env with _ | e
    · have hnone := Variable.firstRefusal?_eq_none_iff.1 hfirst
      rw [inLayers_iff hnone, Option.elim_none, validated_eq_ok]
      exact ⟨fun ⟨hc, hv⟩ => ⟨hnone, hc, hv⟩, fun ⟨_, hc, hv⟩ => ⟨hc, hv⟩⟩
    · rw [Option.elim_some]
      refine ⟨nofun, fun ⟨hnone, _⟩ => ?_⟩
      rw [Variable.firstRefusal?_eq_none_iff.2 hnone] at hfirst
      cases hfirst
  refused e := by
    rw [effective_eq]
    constructor
    · intro h
      rcases hbelow : below file with e' | base
      · rw [hbelow] at h
        cases h
        rcases below_eq_error_iff.1 hbelow with ⟨f, hf, rfl⟩ | ⟨text, y, hf, hy, rfl⟩
        · exact .unreadable hf
        · exact .unparsable hf hy
      · rw [hbelow] at h
        change (Variable.firstRefusal? front env).elim _ _ = _ at h
        rcases hfirst : Variable.firstRefusal? front env with _ | e'
        · rw [hfirst] at h
          obtain ⟨problem, hproblem, rfl⟩ := validated_eq_error.1 h
          have hnone := Variable.firstRefusal?_eq_none_iff.1 hfirst
          exact .invalid hbelow hnone ((inLayers_iff hnone).2 rfl) hproblem
        · rw [hfirst] at h
          cases h
          obtain ⟨before, v, after, hall, hv, hbefore⟩ := List.findSome?_eq_some_iff.1 hfirst
          exact .variable hbelow hall hbefore hv
    · rintro (hf | ⟨hf, hy⟩ | ⟨hbelow, hall, hbefore, hv⟩ | ⟨hbelow, hnone, hlayers, hproblem⟩)
      · rw [below_eq_error_iff.2 (.inl ⟨_, hf, rfl⟩)]
        rfl
      · rw [below_eq_error_iff.2 (.inr ⟨_, _, hf, hy, rfl⟩)]
        rfl
      · have hfirst : Variable.firstRefusal? front env = some e :=
          List.findSome?_eq_some_iff.2 ⟨_, _, _, hall, hv, hbefore⟩
        rw [hbelow, hfirst]
        rfl
      · obtain rfl := (inLayers_iff hnone).1 hlayers
        rw [hbelow, Variable.firstRefusal?_eq_none_iff.2 hnone]
        exact validated_eq_error.2 ⟨_, hproblem, rfl⟩
  others env' h := by
    have hrefusal : Variable.firstRefusal? front env' = Variable.firstRefusal? front env := by
      unfold Variable.firstRefusal?
      congr 1
      funext v
      exact Variable.refusal?_congr (h v)
    have hvalues : Overrides.ofVariables front env' = Overrides.ofVariables front env := by
      unfold Overrides.ofVariables
      simp only [Environment.value?_congr (h _)]
    rw [effective_eq, effective_eq, hrefusal, hvalues]

/-- A variable over the defaults, and a flag over them; the time limit is below both. -/
example :
    let env : Environment := fun name => if name = "CLUSTERLOAD_USERS" then some " 3 " else none
    effective defaultFront none env { host := some "http://[::1]", seed := some 7 } =
      .ok { target := { host := "http://[::1]" }, swarm := { users := 3, seed := some 7 } } := by
  decide +kernel

end Configuration

end LoadSwarm
