/-
  Generated configuration files.

  * `CommandOutcome.generateFile_cases`: a file that exists is kept, or at most directories are made,
    or the sample is written.
  * `FileStep`: a step in a tree of files: a file is written, directories are made, or the program is
    invoked; `FileStep.after` is the tree that a sequence of them leaves.
  * `SampleAt`: the sample is at a place that a path leads to; `SampleAt.step` and `SampleAt.after` are
    that it stays there as long as nothing is written at that place.
  * `SampleStands`: what the commands on files say of it then.
  * `GeneratesSafely`: what becomes of a tree in which a file is generated; `generates_safely` is that it
    holds in every tree of files.
-/
import LoadSwarm.Proofs.Config.Sample
import LoadSwarm.Proofs.Files.Tree
import LoadSwarm.Proofs.Program.Loading

namespace LoadSwarm

/-! ## One command -/

namespace CommandOutcome

open FileTree

/-- **What generating a file can do.**  One that exists is kept unless `force` is set; otherwise
    directories are made on the way to it, and then it fails or writes the sample. -/
theorem generateFile_cases (t : FileTree) (path : String) (force : Bool) :
    (t.exists_ ⟨path⟩ = true ∧ force = false ∧
      generateFile t path force = (t, { result := .error (.fileExists path) })) ∨
    (t.exists_ ⟨path⟩ = true → force = true) ∧
      ∃ t₁, AddsDirectories (FilePath.EnclosedBy ⟨path⟩) t t₁ ∧
        ((∃ e, generateFile t path force = (t₁, { result := .error e })) ∨
          ∃ t' output, t₁.write ⟨path⟩ (.text Configuration.sample.yaml) = .ok t' ∧
            generateFile t path force = (t', { output := output })) := by
  unfold generateFile
  by_cases hkept : (t.exists_ ⟨path⟩ && !force) = true
  · rw [if_pos hkept]
    rw [Bool.and_eq_true, Bool.not_eq_true'] at hkept
    exact .inl ⟨hkept.1, hkept.2, rfl⟩
  · rw [if_neg hkept]
    refine .inr ⟨fun hexists => by simpa [hexists] using hkept, _, makeRoom_adds t ⟨path⟩, ?_⟩
    rcases t.makeRoom ⟨path⟩ with ⟨t₁, e | ⟨⟨⟩⟩⟩
    · exact .inl ⟨_, rfl⟩
    · dsimp only
      rcases hwrite : t₁.write ⟨path⟩ (.text Configuration.sample.yaml) with e | t'
      · exact .inl ⟨_, rfl⟩
      · exact .inr ⟨t', _, rfl, rfl⟩

/-- **What generating a file can do to the tree.** -/
theorem generateFile_tree (t : FileTree) (path : String) (force : Bool) :
    AddsDirectories (FilePath.EnclosedBy ⟨path⟩) t (generateFile t path force).1 ∨
      ∃ t₁, AddsDirectories (FilePath.EnclosedBy ⟨path⟩) t t₁ ∧
        t₁.write ⟨path⟩ (.text Configuration.sample.yaml) = .ok (generateFile t path force).1 := by
  obtain ⟨-, -, hrun⟩ | ⟨-, t₁, hadds, ⟨e, hrun⟩ | ⟨t', output, hwrite, hrun⟩⟩ :=
    generateFile_cases t path force
  · rw [hrun]
    exact .inl (.refl _ t)
  · rw [hrun]
    exact .inl hadds
  · rw [hrun]
    exact .inr ⟨t₁, hadds, hwrite⟩

theorem generateFile_keeps (t : FileTree) (path : String) (force : Bool) :
    t.KeepsDirectories (generateFile t path force).1 := by
  rcases generateFile_tree t path force with hadds | ⟨t₁, hadds, hwrite⟩
  · exact hadds.keeps
  · exact hadds.keeps.trans (write_keeps hwrite)

/-- A file stays as it is unless the sample takes its place. -/
theorem generateFile_at? {t : FileTree} {place : List String} {c : FileContent}
    (hplace : t.at? place = some (.file c)) (path : String) (force : Bool) :
    (generateFile t path force).1.at? place = some (.file c) ∨
      (generateFile t path force).1.at? place = some (.file (.text Configuration.sample.yaml)) := by
  rcases generateFile_tree t path force with hadds | ⟨t₁, hadds, hwrite⟩
  · exact .inl (hadds.at?_eq hplace)
  · obtain ⟨other, -, -, hat, hput⟩ := write_eq_ok_iff.1 hwrite
    rw [hput]
    by_cases hother : place = other
    · subst hother
      exact .inr (at?_put_self (not_isGround hat) _)
    · exact .inl ((at?_put_of_ne hother _).trans (hadds.at?_eq hplace))

end CommandOutcome

/-! ## The program -/

namespace Program

variable {patterns : PatternReader} {env : Environment} {t t' : FileTree} {stamp : Option String}
  {i : Invocation} {course : Course}

/-- The program generates a file as the command does. -/
theorem perform_generate {path : String} {force : Bool} (hi : i.command = .generate path force)
    (h : perform patterns env t stamp i = .ok (t', course)) :
    t' = (CommandOutcome.generateFile t path force).1 := by
  unfold perform at h
  rw [hi] at h
  obtain ⟨sink, -, h⟩ := bind_eq_ok_iff.1 h
  cases h
  rfl

/-- **No other command changes the tree.** -/
theorem perform_keeps (hi : ∀ path force, i.command ≠ .generate path force)
    (h : perform patterns env t stamp i = .ok (t', course)) : t' = t := by
  unfold perform at h
  rcases hcommand : i.command with o | path | ⟨path, force⟩ | _
  · rw [hcommand] at h
    obtain ⟨c, -, h⟩ := bind_eq_ok_iff.1 h
    obtain ⟨sink, -, h⟩ := bind_eq_ok_iff.1 h
    rcases hprepare : LoadRun.prepare c o with e | r
    · rw [hprepare] at h
      cases h
      rfl
    · rw [hprepare] at h
      cases h
      rfl
  · rw [hcommand] at h
    obtain ⟨sink, -, h⟩ := bind_eq_ok_iff.1 h
    cases h
    rfl
  · exact absurd hcommand (hi path force)
  · rw [hcommand] at h
    obtain ⟨c, -, h⟩ := bind_eq_ok_iff.1 h
    obtain ⟨sink, -, h⟩ := bind_eq_ok_iff.1 h
    cases h
    rfl

/-- What the program shows of a file is what the command shows, once there is a log. -/
theorem perform_display {c : Configuration} {sink : LogSink} (hi : i.command = .display)
    (hc : Configuration.ofFiles env t i.config = .ok c) (hsink : sinkOf patterns env i c.log = .ok sink) :
    perform patterns env t stamp i =
      .ok (t, .ended (ofOutcome sink stamp (CommandOutcome.displayFile env t i.config))) := by
  unfold perform CommandOutcome.displayFile
  rw [hi, hc]
  dsimp only [bind, Except.bind]
  rw [hsink]; rfl

end Program

/-! ## Steps in a tree -/

/-- A step in a tree of files. -/
inductive FileStep where
  | write (path : String) (content : FileContent)
  | makeDirectories (path : String)
  | invoke (patterns : PatternReader) (env : Environment) (stamp : Option String) (i : Invocation)

namespace FileStep

/-- The tree that a step leaves; one that fails to open a file leaves it as it is. -/
def tree (t : FileTree) : FileStep → FileTree
  | write path content => (t.write ⟨path⟩ content).toOption.getD t
  | makeDirectories path => (t.makeDirectories ⟨path⟩).1
  | invoke patterns env stamp i =>
    match Program.perform patterns env t stamp i with
    | .ok (t', _) => t'
    | .error _ => t

/-- A step writes a file at a place. -/
def WritesAt (t : FileTree) (place : List String) : FileStep → Prop
  | write path content => t.locate ⟨path⟩ = .ok place ∧ ∃ t', t.write ⟨path⟩ content = .ok t'
  | makeDirectories _ | invoke _ _ _ _ => False

/-- The tree that a sequence of steps leaves. -/
def after (t : FileTree) (steps : List FileStep) : FileTree := steps.foldl tree t

/-- No step of a sequence writes a file at a place. -/
def Spare (place : List String) : FileTree → List FileStep → Prop
  | _, [] => True
  | t, step :: steps => ¬ step.WritesAt t place ∧ Spare place (step.tree t) steps

/-- What the program leaves. -/
theorem tree_invoke (t : FileTree) (patterns : PatternReader) (env : Environment)
    (stamp : Option String) (i : Invocation) :
    (invoke patterns env stamp i).tree t = t ∨ ∃ path force,
      (invoke patterns env stamp i).tree t = (CommandOutcome.generateFile t path force).1 := by
  rw [tree]
  rcases h : Program.perform patterns env t stamp i with e | ⟨t', course⟩
  · exact .inl rfl
  by_cases hi : ∃ path force, i.command = .generate path force
  · obtain ⟨path, force, hi⟩ := hi
    exact .inr ⟨path, force, Program.perform_generate hi h⟩
  · exact .inl (Program.perform_keeps (fun path force hpath => hi ⟨path, force, hpath⟩) h)

/-- **A step leaves all directories.** -/
theorem tree_keeps (t : FileTree) (step : FileStep) : t.KeepsDirectories (step.tree t) := by
  cases step with
  | write path content =>
    rw [tree]
    rcases h : t.write ⟨path⟩ content with e | t'
    · exact .refl t
    · exact FileTree.write_keeps h
  | makeDirectories path => exact (FileTree.makeDirectories_adds t ⟨path⟩).keeps
  | invoke patterns env stamp i =>
    rcases tree_invoke t patterns env stamp i with h | ⟨path, force, h⟩
    · rw [h]
      exact .refl t
    · rw [h]
      exact CommandOutcome.generateFile_keeps t path force

/-- **A step leaves a file as it is**, unless it writes there or the sample takes its place. -/
theorem tree_at? {t : FileTree} {place : List String} {c : FileContent} {step : FileStep}
    (hplace : t.at? place = some (.file c)) (hspare : ¬ step.WritesAt t place) :
    (step.tree t).at? place = some (.file c) ∨
      (step.tree t).at? place = some (.file (.text Configuration.sample.yaml)) := by
  cases step with
  | write path content =>
    refine .inl ?_
    rw [tree]
    rcases h : t.write ⟨path⟩ content with e | t'
    · exact hplace
    · obtain ⟨other, hother, -, -, rfl⟩ := FileTree.write_eq_ok_iff.1 h
      have hne : place ≠ other := by
        rintro rfl
        exact hspare ⟨hother, _, h⟩
      exact (FileTree.at?_put_of_ne hne _).trans hplace
  | makeDirectories path =>
    exact .inl ((FileTree.makeDirectories_adds t ⟨path⟩).at?_eq hplace)
  | invoke patterns env stamp i =>
    rcases tree_invoke t patterns env stamp i with h | ⟨path, force, h⟩
    · rw [h]
      exact .inl hplace
    · rw [h]
      exact CommandOutcome.generateFile_at? hplace path force

end FileStep

/-! ## The sample at its place -/

/-- The sample is at a place that a path leads to. -/
structure SampleAt (path : String) (place : List String) (t : FileTree) : Prop where
  leads : t.locate ⟨path⟩ = .ok place
  plain : FilePath.asDirectory ⟨path⟩ = false
  there : t.at? place = some (.file (.text Configuration.sample.yaml))

namespace SampleAt

variable {path : String} {place : List String} {t : FileTree}

/-- A step that does not write there leaves it there. -/
theorem step (h : SampleAt path place t) {step : FileStep} (hspare : ¬ step.WritesAt t place) :
    SampleAt path place (step.tree t) where
  leads := (step.tree_keeps t).locate h.leads
  plain := h.plain
  there := (FileStep.tree_at? h.there hspare).elim id id

/-- **Steps that do not write there leave it there.** -/
theorem after {steps : List FileStep} (h : SampleAt path place t)
    (hspare : FileStep.Spare place t steps) : SampleAt path place (FileStep.after t steps) := by
  induction steps generalizing t with
  | nil => exact h
  | cons step steps ih => exact ih (h.step hspare.1) hspare.2

end SampleAt

/-- **What the commands on files say of the sample.** -/
structure SampleStands (path : String) (t : FileTree) : Prop where
  read : t.read ⟨path⟩ = .ok Configuration.sample.yaml
  /-- it passes, -/
  passes : (CommandOutcome.validateFile t path).result = .ok ()
  /-- under every environment, -/
  checked : ∀ (patterns : PatternReader) (env : Environment) (stamp : Option String) (i : Invocation)
    (sink : LogSink), i.command = .validate path → Program.sinkOf patterns env i {} = .ok sink →
    ∃ e, Program.perform patterns env t stamp i = .ok (t, .ended e) ∧ e.status = 0
  /-- and without variables it is shown as it is. -/
  shown : ∀ env : Environment, env.IsUnset defaultFront →
    CommandOutcome.displayFile env t (some path) = { output := Configuration.sample.yaml }
  printed : ∀ (patterns : PatternReader) (env : Environment) (stamp : Option String) (i : Invocation)
    (sink : LogSink), env.IsUnset defaultFront → i.command = .display → i.config = some path →
    Program.sinkOf patterns env i Configuration.sample.log = .ok sink →
    ∃ e, Program.perform patterns env t stamp i = .ok (t, .ended e) ∧ e.status = 0 ∧
      e.output = Configuration.sample.yaml

theorem SampleAt.stands {path : String} {place : List String} {t : FileTree}
    (h : SampleAt path place t) : SampleStands path t := by
  have hread : t.read ⟨path⟩ = .ok Configuration.sample.yaml := FileTree.read_eq h.leads h.plain h.there
  have hbelow : Configuration.below (some (t.read ⟨path⟩)) = .ok Configuration.sample :=
    hread ▸ Configuration.below_of_ofYaml Configuration.sample_read
  have hpasses : (CommandOutcome.validateFile t path).result = .ok () :=
    CommandOutcome.validateFile_eq_ok_iff.2 ⟨_, hbelow, Configuration.sample_validate⟩
  have hfiles (env : Environment) (hunset : env.IsUnset defaultFront) :
      Configuration.ofFiles env t (some path) = .ok Configuration.sample :=
    Configuration.ofFiles_of_unset hunset hbelow
  have hshown (env : Environment) (hunset : env.IsUnset defaultFront) :
      CommandOutcome.displayFile env t (some path) = { output := Configuration.sample.yaml } :=
    (CommandOutcome.displayFile_of_ofFiles (hfiles env hunset)).trans
      (CommandOutcome.display_of_validate Configuration.sample_validate)
  refine ⟨hread, hpasses, fun patterns env stamp i sink hi hsink => ?_, hshown,
    fun patterns env stamp i sink hunset hi hconfig hsink => ?_⟩
  · refine ⟨_, Program.perform_validate hi hsink, ?_⟩
    unfold Program.ofOutcome
    rw [hpasses]
  · have hdisplay : Program.perform patterns env t stamp i = _ :=
      Program.perform_display hi (hconfig ▸ hfiles env hunset) hsink
    rw [hconfig, hshown env hunset] at hdisplay
    exact ⟨_, hdisplay, rfl, rfl⟩

/-! ## What becomes of a tree -/

/-- **A file was generated**: the sample is at its place, and what is new elsewhere are directories around
    it. -/
structure Generated (path : String) (place : List String) (t t' : FileTree) : Prop where
  sample : SampleAt path place t'
  elsewhere : ∀ other, other ≠ place → t'.at? other = t.at? other ∨
    t.at? other = none ∧ t'.at? other = some .directory ∧
      ∃ q, FilePath.EnclosedBy ⟨path⟩ q ∧ t'.locate q = .ok other
  /-- It stands until the next file is written there. -/
  later : ∀ steps, FileStep.Spare place t' steps → SampleStands path (FileStep.after t' steps)

/-- What is written where there was room is a generated file. -/
theorem Generated.of_write {path : String} {t t₁ t' : FileTree}
    (hadds : FileTree.AddsDirectories (FilePath.EnclosedBy ⟨path⟩) t t₁)
    (hwrite : t₁.write ⟨path⟩ (.text Configuration.sample.yaml) = .ok t') :
    ∃ place, Generated path place t t' := by
  have hkeeps := FileTree.write_keeps hwrite
  obtain ⟨place, hlocate, hplain, hat, rfl⟩ := FileTree.write_eq_ok_iff.1 hwrite
  have hsample : SampleAt path place
      (t₁.put place (.file (.text Configuration.sample.yaml))) :=
    ⟨hkeeps.locate hlocate, hplain, FileTree.at?_put_self (FileTree.not_isGround hat) _⟩
  refine ⟨place, hsample, fun other hother => ?_, fun steps hspare => (hsample.after hspare).stands⟩
  rw [FileTree.at?_put_of_ne hother]
  exact (hadds other).imp_right fun ⟨hnone, hnew, q, hq, hway⟩ =>
    ⟨hnone, hnew, q, hq, hkeeps.locate hway⟩

/-- **Generating a configuration file is safe**, in a tree of files. -/
structure GeneratesSafely (t : FileTree) (path : String) (force : Bool) : Prop where
  /-- What exists is kept with the whole tree, unless `force` is set. -/
  refused : ∀ entry, t.look ⟨path⟩ = .ok entry → force = false →
    CommandOutcome.generateFile t path force = (t, { result := .error (.fileExists path) })
  /-- A failure adds directories around the file at most, -/
  failed : ∀ e, (CommandOutcome.generateFile t path force).2.result = .error e →
    FileTree.AddsDirectories (FilePath.EnclosedBy ⟨path⟩) t
      (CommandOutcome.generateFile t path force).1
  /-- so that what a path led to is as it was. -/
  kept : ∀ e, (CommandOutcome.generateFile t path force).2.result = .error e →
    ∀ p entry, t.look p = .ok entry →
      (CommandOutcome.generateFile t path force).1.look p = .ok entry
  /-- A success leaves the sample at the place of the file. -/
  generated : (CommandOutcome.generateFile t path force).2.result = .ok () →
    ∃ place, Generated path place t (CommandOutcome.generateFile t path force).1
  /-- The program does the same to the tree, -/
  performed : ∀ patterns env stamp (i : Invocation) t' course, i.command = .generate path force →
    Program.perform patterns env t stamp i = .ok (t', course) →
      t' = (CommandOutcome.generateFile t path force).1
  /-- and nothing with other commands. -/
  unchanged : ∀ patterns env stamp (i : Invocation) t' course,
    (∀ path force, i.command ≠ .generate path force) →
      Program.perform patterns env t stamp i = .ok (t', course) → t' = t

/-- **Generating a configuration file is safe**, for every path in every tree of files. -/
theorem generates_safely (t : FileTree) (path : String) (force : Bool) :
    GeneratesSafely t path force := by
  have hcases := CommandOutcome.generateFile_cases t path force
  have hfailed (e : CommandError) (he : (CommandOutcome.generateFile t path force).2.result = .error e) :
      FileTree.AddsDirectories (FilePath.EnclosedBy ⟨path⟩) t
        (CommandOutcome.generateFile t path force).1 := by
    obtain ⟨-, -, hrun⟩ | ⟨-, t₁, hadds, ⟨e', hrun⟩ | ⟨t', output, hwrite, hrun⟩⟩ := hcases
    · rw [hrun]
      exact .refl _ t
    · rw [hrun]
      exact hadds
    · rw [hrun] at he
      cases he
  refine ⟨fun entry hentry hforce => ?_, hfailed, fun e he p entry => (hfailed e he).look, fun hok => ?_,
    fun patterns env stamp i t' course => Program.perform_generate,
    fun patterns env stamp i t' course => Program.perform_keeps⟩
  · have hexists : t.exists_ ⟨path⟩ = true := by
      unfold FileTree.exists_
      rw [hentry]; rfl
    obtain ⟨-, -, hrun⟩ | ⟨hforced, -⟩ := hcases
    · exact hrun
    · rw [hforced hexists] at hforce
      cases hforce
  · obtain ⟨-, -, hrun⟩ | ⟨-, t₁, hadds, ⟨e, hrun⟩ | ⟨t', output, hwrite, hrun⟩⟩ := hcases
    · rw [hrun] at hok
      cases hok
    · rw [hrun] at hok
      cases hok
    · rw [hrun]
      exact Generated.of_write hadds hwrite

-- the directory around a new file is made; a file in its place is in the way
example :
    (CommandOutcome.generateFile {} "a/b" false).2.result = .ok () ∧
    (CommandOutcome.generateFile (.ofFiles [(⟨"a"⟩, .binary)]) "a/b"
      true).2.result = .error (.noDirectory .alreadyExists) := by
  decide +kernel

end LoadSwarm
