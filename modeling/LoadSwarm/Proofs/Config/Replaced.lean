/-
  Values that a flag replaces.

  * `FlagField`: the fields that a flag can set, each with its variable; `FlagField.WellFormed` is the
    form of the texts of that variable.
  * `FlagField.apply_congr`: under its flag the value of a field does not count.
  * `FlagRule`: so what a file or a variable gives to the field does not change the result, except
    that a pacing of a variable is validated where it is read; `flag_rule` is that this holds for all
    flags.
-/
import LoadSwarm.Proofs.Config.Effective

namespace LoadSwarm

/-- A field that a flag can set. -/
inductive FlagField where
  | host
  | users
  | spawnRate
  | runTime
  | pacing
  | seed
  deriving DecidableEq

namespace FlagField

/-- The variable of a field. -/
def toVariable : FlagField → Variable
  | host => .host
  | users => .users
  | spawnRate => .spawnRate
  | runTime => .runTime
  | pacing => .wait
  | seed => .seed

/-- The flag of a field is given. -/
def Given (flags : RunFlags) : FlagField → Prop
  | host => ∃ x, flags.host = some x
  | users => ∃ x, flags.users = some x
  | spawnRate => ∃ x, flags.spawnRate = some x
  | runTime => ∃ x, flags.runTime = some x
  | pacing => ∃ x, flags.pacing = some x
  | seed => ∃ x, flags.seed = some x

/-- A configuration without the value of a field. -/
def erase (c : Configuration) : FlagField → Configuration
  | host => { c with target.host := "" }
  | users => { c with swarm.users := 0 }
  | spawnRate => { c with swarm.spawnRate := .nan }
  | runTime => { c with swarm.runTime := none }
  | pacing => { c with swarm.pacing := .none }
  | seed => { c with swarm.seed := none }

/-- The form of the texts of the variable of a field: any text; a number, with white space around it;
    or one of the forms of a pacing.  Nothing is said of what the numbers are. -/
def WellFormed (text : String) : FlagField → Prop
  | host => True
  | users => ∃ n, Unsigned.parse Unsigned.max32 (Text.trim text) = .ok n
  | spawnRate => ∃ x, Binary64.parse (Text.trim text) = .ok x
  | runTime => ∃ n, Unsigned.parse Unsigned.max64 (Text.trim text) = .ok n
  | pacing => ∃ p, Pacing.parseForm text = .ok p
  | seed => ∃ n, Unsigned.parse Unsigned.max64 (Text.trim text) = .ok n

/-- Two results of reading a file are the same up to the value of a field. -/
def SameBut (k : FlagField) (r₁ r₂ : Except ConfigError Configuration) : Prop :=
  r₁ = r₂ ∨ ∃ c₁ c₂, r₁ = .ok c₁ ∧ r₂ = .ok c₂ ∧ k.erase c₁ = k.erase c₂

/-! ## Layers above the field -/

variable {k : FlagField} {flags : RunFlags} {c₁ c₂ : Configuration}

/-- **Under its flag the value of a field does not count.** -/
theorem apply_congr (hflag : k.Given flags) (h : k.erase c₁ = k.erase c₂) :
    flags.overrides.apply c₁ = flags.overrides.apply c₂ := by
  obtain ⟨⟨_, _⟩, ⟨_, _, _, _, _⟩, _, _⟩ := c₁
  obtain ⟨⟨_, _⟩, ⟨_, _, _, _, _⟩, _, _⟩ := c₂
  cases k <;> obtain ⟨x, hx⟩ := hflag <;> cases h <;>
    simp only [RunFlags.overrides, Overrides.apply, hx, Option.getD_some, Option.map_some, Option.some_or]

/-- What is the same up to a field stays so under a layer. -/
theorem erase_apply_congr (o : Overrides) (h : k.erase c₁ = k.erase c₂) :
    k.erase (o.apply c₁) = k.erase (o.apply c₂) := by
  obtain ⟨⟨_, _⟩, ⟨_, _, _, _, _⟩, _, _⟩ := c₁
  obtain ⟨⟨_, _⟩, ⟨_, _, _, _, _⟩, _, _⟩ := c₂
  cases k <;> cases h <;> rfl

variable {front : String} {env₁ env₂ : Environment}

/-- Variables that differ in that of a field make configurations that are the same up to it. -/
theorem erase_ofVariables_congr
    (henv : ∀ v, v ≠ k.toVariable → env₁ (v.name front) = env₂ (v.name front)) (c : Configuration) :
    k.erase ((Overrides.ofVariables front env₁).apply c) =
      k.erase ((Overrides.ofVariables front env₂).apply c) := by
  have hvalue {α : Type} (v : Variable) (hv : v ≠ k.toVariable)
      (read : String → String → Except ConfigError α) :
      env₁.value? front v read = env₂.value? front v read := Environment.value?_congr (henv v hv) read
  cases k <;>
    simp (disch := decide) only [erase, Overrides.apply, Overrides.ofVariables, hvalue]

end FlagField

namespace Environment

variable {env : Environment} {front name text : String}

/-- A variable whose text can be read is not refused. -/
theorem refusal?_eq_none {α : Type} {v : Variable} {read : String → String → Except ConfigError α}
    (h : ∀ text, env (v.name front) = some text → ∃ a, read (v.name front) text = .ok a) :
    env.refusal? front v read = none := by
  unfold refusal?
  rcases htext : env (v.name front) with _ | text
  · rfl
  · obtain ⟨a, ha⟩ := h text htext
    rw [Option.bind_some, ha]

theorem readNatural_eq {limit n : Nat} (h : Unsigned.parse limit (Text.trim text) = .ok n) :
    readNatural limit name text = .ok n := by
  unfold readNatural; rw [h]

end Environment

namespace FlagField

variable {k : FlagField} {flags : RunFlags} {front : String} {env env₁ env₂ : Environment}

/-- The variable of a field is unset, or has a text of its form, which for a pacing is valid. -/
def Readable (k : FlagField) (front : String) (env : Environment) : Prop :=
  ∀ text, env (k.toVariable.name front) = some text →
    k.WellFormed text ∧ (k = pacing → ∃ p, Pacing.parse text = .ok p)

theorem refusal?_eq_none (h : k.Readable front env) : k.toVariable.refusal? front env = none := by
  cases k with
  | host =>
    show env.refusal? front .host Environment.readText = none
    exact Environment.refusal?_eq_none fun text _ => ⟨text, rfl⟩
  | users =>
    refine Environment.refusal?_eq_none fun text htext => ?_
    obtain ⟨n, hn⟩ := (h text htext).1
    exact ⟨_, by unfold Environment.readNat32; rw [Environment.readNatural_eq hn]; rfl⟩
  | spawnRate =>
    refine Environment.refusal?_eq_none fun text htext => ?_
    obtain ⟨x, hx⟩ := (h text htext).1
    exact ⟨x, by unfold Environment.readFloat; rw [hx]⟩
  | runTime =>
    refine Environment.refusal?_eq_none fun text htext => ?_
    obtain ⟨n, hn⟩ := (h text htext).1
    exact ⟨_, by
      unfold Environment.readSeconds Environment.readNat64
      rw [Environment.readNatural_eq hn]; rfl⟩
  | pacing =>
    refine Environment.refusal?_eq_none fun text htext => ?_
    obtain ⟨p, hp⟩ := (h text htext).2 rfl
    exact ⟨p, by unfold Environment.readPacing; rw [hp]⟩
  | seed =>
    refine Environment.refusal?_eq_none fun text htext => ?_
    obtain ⟨n, hn⟩ := (h text htext).1
    exact ⟨_, by unfold Environment.readNat64; rw [Environment.readNatural_eq hn]; rfl⟩

theorem firstRefusal?_congr
    (henv : ∀ v, v ≠ k.toVariable → env₁ (v.name front) = env₂ (v.name front))
    (h₁ : k.Readable front env₁) (h₂ : k.Readable front env₂) :
    Variable.firstRefusal? front env₁ = Variable.firstRefusal? front env₂ := by
  unfold Variable.firstRefusal?
  congr 1
  funext v
  by_cases hv : v = k.toVariable
  · rw [hv, refusal?_eq_none h₁, refusal?_eq_none h₂]
  · exact Variable.refusal?_congr (henv v hv)

end FlagField

/-! ## Two runs -/

/-- **How flags replace values.** -/
structure FlagRule (front : String) (flags : RunFlags) : Prop where
  /-- under its flag, what a file and a variable give to a field does not count -/
  replaces : ∀ (k : FlagField) (file₁ file₂ : Option FileText) (env₁ env₂ : Environment),
    k.Given flags → k.SameBut (Configuration.below file₁) (Configuration.below file₂) →
    (∀ v, v ≠ k.toVariable → env₁ (v.name front) = env₂ (v.name front)) →
    k.Readable front env₁ → k.Readable front env₂ →
    Configuration.effective front file₁ env₁ flags = Configuration.effective front file₂ env₂ flags
  /-- a pacing of a variable that is not valid is an error, flag or not, if nothing before it is -/
  early : ∀ (file : Option FileText) (base : Configuration) (env : Environment) (text : String)
    (p : Pacing) (e : DomainError), Configuration.below file = .ok base →
    (∀ v ∈ [Variable.host, .users, .spawnRate, .runTime], v.refusal? front env = none) →
    env (Variable.wait.name front) = some text → Pacing.parseForm text = .ok p →
    p.validate = .error e → Configuration.effective front file env flags = .error (.invalid e)

/-- **A flag replaces the value of a file or variable**, be it valid or not, except for an invalid
    pacing of a variable. -/
theorem flag_rule (front : String) (flags : RunFlags) : FlagRule front flags where
  replaces k file₁ file₂ env₁ env₂ hflag hfile henv h₁ h₂ := by
    rw [Configuration.effective_eq, Configuration.effective_eq, k.firstRefusal?_congr henv h₁ h₂]
    have happly {c₁ c₂ : Configuration} (h : k.erase c₁ = k.erase c₂) :
        flags.overrides.apply ((Overrides.ofVariables front env₁).apply c₁) =
          flags.overrides.apply ((Overrides.ofVariables front env₂).apply c₂) :=
      k.apply_congr hflag ((k.erase_ofVariables_congr henv c₁).trans (k.erase_apply_congr _ h))
    rcases hfile with hsame | ⟨c₁, c₂, hc₁, hc₂, h⟩
    · rw [hsame]
      congr 1
      funext c
      rw [happly rfl]
    · rw [hc₁, hc₂]
      show (Variable.firstRefusal? front env₂).elim _ _ = (Variable.firstRefusal? front env₂).elim _ _
      rw [happly h]
  early file base env text p e hbase hbefore htext hform hvalid := by
    have hwait : Variable.wait.refusal? front env = some (.invalid e) := by
      have hparse : Pacing.parse text = .error e := by
        unfold Pacing.parse
        rw [hform]
        show (p.validate >>= _) = _
        rw [hvalid]
        rfl
      show env.refusal? front .wait Environment.readPacing = _
      unfold Environment.refusal? Environment.readPacing
      rw [htext, Option.bind_some, hparse]
    have hfirst : Variable.firstRefusal? front env = some (.invalid e) :=
      List.findSome?_eq_some_iff.2 ⟨[.host, .users, .spawnRate, .runTime], .wait, _, rfl, hwait, hbefore⟩
    rw [Configuration.effective_eq, hbase, hfirst]
    rfl

/-- **An invalid pacing of a variable is not replaced** by a valid one of the flags, although it is
    well-formed. -/
theorem invalid_wait_not_replaced :
    ¬ ∀ (front : String) (flags : RunFlags) (p : Pacing) (file : Option FileText)
      (env₁ env₂ : Environment), flags.pacing = some p → p.validate = .ok () →
      (∀ v, v ≠ Variable.wait → env₁ (v.name front) = env₂ (v.name front)) →
      (∀ text, env₁ (Variable.wait.name front) = some text → FlagField.pacing.WellFormed text) →
      (∀ text, env₂ (Variable.wait.name front) = some text → FlagField.pacing.WellFormed text) →
      Configuration.effective front file env₁ flags = Configuration.effective front file env₂ flags := by
  intro h
  let flags : RunFlags := { host := some "http://[::1]", pacing := some .none }
  let env : Environment := fun name => if name = "CLUSTERLOAD_WAIT" then some "constant:-1" else none
  have hother : ∀ v, v ≠ Variable.wait → env (v.name defaultFront) = none := by
    intro v hv
    cases v with
    | wait => exact absurd rfl hv
    | _ => decide +kernel
  have hform : ∀ text, env (Variable.wait.name defaultFront) = some text →
      FlagField.pacing.WellFormed text := by
    intro text htext
    obtain rfl : "constant:-1" = text := Option.some.inj htext
    exact ⟨.constant (Binary64.ofNat 1).neg, by decide +kernel⟩
  have hsame := h defaultFront flags .none none env (fun _ => none) rfl rfl hother hform nofun
  have hdiffers : Configuration.effective defaultFront none env flags ≠
      Configuration.effective defaultFront none (fun _ => none) flags := by decide +kernel
  exact hdiffers hsame

end LoadSwarm
