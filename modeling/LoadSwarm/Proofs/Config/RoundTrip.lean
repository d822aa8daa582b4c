/-
  Configurations that are written and read again.

  * `Configuration.truncated`: all durations are cut to whole seconds, nothing else is changed.
  * `Target.readAs`, `LoadShape.readAs`, `ClientOptions.readAs`, `LogOptions.readAs`: the members that are
    written for a part set its fields when they are read.
  * `Configuration.wholeSeconds_of_layered`: files, variables and flags only give whole seconds.
  * `Configuration.RoundTrip`: what is read from a text that was written; `roundTrip` is that it holds for
    every configuration whose text shows its members.
-/
import LoadSwarm.Config.Writer
import LoadSwarm.Proofs.Config.Effective
import LoadSwarm.Proofs.Time.Seconds
import LoadSwarm.Proofs.Yaml.Shown

namespace LoadSwarm

open Yaml Value

variable {d : Duration} {depth : Nat}

/-! ## Whole seconds -/

namespace Duration

/-- A whole number of seconds. -/
def IsWhole (d : Duration) : Prop := d.subsecond = 0

instance (d : Duration) : Decidable d.IsWhole := inferInstanceAs (Decidable (d.subsecond = 0))

theorem isWhole_ofSeconds (s : UInt64) : (ofSeconds s).IsWhole := Nat.mul_mod_left _ _

theorem IsWhole.truncate_eq (h : d.IsWhole) : d.truncate = d := by
  refine ext_nanos ?_
  have hnanos := d.nanos_eq
  rw [show d.subsecond = 0 from h, Nat.add_zero] at hnanos
  exact hnanos

theorem seconds_truncate (d : Duration) : d.truncate.seconds = d.seconds :=
  Nat.mul_div_cancel _ nanosPerSecond_pos

/-- Whole seconds make the duration that is cut to them. -/
theorem ofSeconds_seconds (d : Duration) : ofSeconds (UInt64.ofNat d.seconds) = d.truncate := by
  refine ext_nanos ?_
  show (UInt64.ofNat d.seconds).toNat * nanosPerSecond = d.seconds * nanosPerSecond
  rw [UInt64.toNat_ofNat_of_lt' d.seconds_lt]

end Duration

namespace Configuration

variable {c : Configuration}

/-- The configuration with all durations cut to whole seconds. -/
def truncated (c : Configuration) : Configuration :=
  { c with
    swarm := { c.swarm with runTime := c.swarm.runTime.map Duration.truncate }
    client :=
      { c.client with
        timeout := c.client.timeout.truncate
        pool :=
          { c.client.pool with
            idleTimeout := c.client.pool.idleTimeout.truncate
            connectionTimeout := c.client.pool.connectionTimeout.truncate } } }

/-- All durations are whole seconds. -/
structure WholeSeconds (c : Configuration) : Prop where
  runTime : ∀ d ∈ c.swarm.runTime, d.IsWhole
  timeout : c.client.timeout.IsWhole
  idleTimeout : c.client.pool.idleTimeout.IsWhole
  connectionTimeout : c.client.pool.connectionTimeout.IsWhole

theorem WholeSeconds.truncated_eq (h : c.WholeSeconds) : c.truncated = c := by
  have hrun : c.swarm.runTime.map Duration.truncate = c.swarm.runTime :=
    Option.map_congr (fun d hd => (h.runTime d hd).truncate_eq) |>.trans Option.map_id'
  unfold truncated
  rw [hrun, h.timeout.truncate_eq, h.idleTimeout.truncate_eq, h.connectionTimeout.truncate_eq]

/-- What is written are whole seconds. -/
theorem members_truncated (c : Configuration) : c.truncated.members = c.members := by
  have hseconds (d : Duration) : secondsValue d.truncate = secondsValue d :=
    congrArg natValue d.seconds_truncate
  have hrun : optionalMember "run_time" secondsValue (c.swarm.runTime.map Duration.truncate) =
      optionalMember "run_time" secondsValue c.swarm.runTime := by
    cases c.swarm.runTime with
    | none => rfl
    | some d => exact congrArg (fun v => [("run_time", v)]) (hseconds d)
  unfold members truncated LoadShape.members ClientOptions.members ConnectionPool.members
  simp only [hrun, hseconds]

/-! ## What layers can give -/

section Layers

variable {α : Type} {P : α → Prop} {read : Place → Node → Reading α} {doc : Document} {keys : List String}

/-- Whatever is read has a property. -/
def OnlyGives (read : Place → Node → Reading α) (P : α → Prop) : Prop :=
  ∀ at_ n i a j, read at_ n i = .ok (a, j) → P a

theorem onlyGives_seconds : OnlyGives readSeconds Duration.IsWhole := by
  intro at_ n i d j h
  obtain ⟨s, k, -, h⟩ := Reading.bind_eq_ok_iff.1 h
  cases h
  exact Duration.isWhole_ofSeconds _

theorem OnlyGives.option (h : OnlyGives read P) : OnlyGives (readOption read) fun x => ∀ a ∈ x, P a := by
  -- a value that is there was read by `read`
  have hsome {at_ : Place} {n : Node} {i j : Nat} {x : Option α}
      (hx : (do return some (← read at_ n) : Reading (Option α)) i = .ok (x, j)) : ∀ a ∈ x, P a := by
    obtain ⟨a, k, ha, hx⟩ := Reading.bind_eq_ok_iff.1 hx
    cases hx
    rintro b ⟨⟩
    exact h _ _ _ _ _ ha
  intro at_ n i x j hx
  obtain ⟨m, k, -, hx⟩ := Reading.bind_eq_ok_iff.1 hx
  cases m with
  | scalar mark tag text style =>
    obtain ⟨nothing, k, -, hx⟩ := Reading.bind_eq_ok_iff.1 hx
    cases nothing with
    | true => cases hx; exact nofun
    | false => exact hsome hx
  | _ => exact hsome hx

theorem OnlyGives.gives {default a : α} (h : OnlyGives read P) (hgives : doc.Gives keys read default a)
    (hdefault : P default) : P a := by
  unfold Document.Gives Document.Entry at hgives
  rcases hn : doc.at? keys with _ | n
  · rw [hn] at hgives
    cases hgives
    exact hdefault
  · rw [hn] at hgives
    obtain ⟨at_, i, j, -, hread⟩ := hgives
    exact h _ _ _ _ _ hread

/-- Files only give whole seconds. -/
theorem wholeSeconds_of_ofYaml {text : String} (h : ofYaml text = .ok c) : c.WholeSeconds := by
  have hc := describedBy_of_ofYaml h
  exact
    { runTime := onlyGives_seconds.option.gives hc.runTime nofun
      timeout := onlyGives_seconds.gives hc.timeout (Duration.isWhole_ofSeconds 30)
      idleTimeout := onlyGives_seconds.gives hc.idleTimeout (Duration.isWhole_ofSeconds 90)
      connectionTimeout := onlyGives_seconds.gives hc.connectionTimeout (Duration.isWhole_ofSeconds 10) }

theorem wholeSeconds_of_below {file : Option FileText} (h : below file = .ok c) : c.WholeSeconds := by
  unfold below parseFile at h
  rcases file with _ | e | text
  · cases h
    exact ⟨nofun, rfl, rfl, rfl⟩
  · cases h
  · rcases hy : ofYaml text with e | c'
    · simp only [hy] at h; cases h
    · simp only [hy] at h; cases h
      exact wholeSeconds_of_ofYaml hy

/-- Variables only give whole seconds. -/
theorem isWhole_of_variable {front : String} {env : Environment} {v : Variable}
    (h : d ∈ env.value? front v Environment.readSeconds) : d.IsWhole := by
  obtain ⟨text, -, hread⟩ := Option.bind_eq_some_iff.1 h
  rcases hs : Environment.readNat64 (v.name front) text with e | s
  · rw [Environment.readSeconds, hs] at hread
    cases hread
  · rw [Environment.readSeconds, hs] at hread
    cases hread
    exact Duration.isWhole_ofSeconds s

theorem wholeSeconds_apply {o : Overrides} (hrun : ∀ d ∈ o.runTime, d.IsWhole)
    (htimeout : ∀ d ∈ o.timeout, d.IsWhole) (h : c.WholeSeconds) : (o.apply c).WholeSeconds := by
  refine ⟨?_, ?_, h.idleTimeout, h.connectionTimeout⟩
  · intro d hd
    rcases Option.or_eq_some_iff.1 hd with hd | ⟨-, hd⟩
    · exact hrun d hd
    · exact h.runTime d hd
  · show (o.timeout.getD c.client.timeout).IsWhole
    rcases ho : o.timeout with _ | d
    · exact h.timeout
    · exact htimeout d ho

/-- **Files, variables and flags only give whole seconds.** -/
theorem wholeSeconds_of_layered {front : String} {file : Option FileText} {env : Environment}
    (flags : RunFlags) (h : layered front file env = .ok c) : (flags.overrides.apply c).WholeSeconds := by
  rw [layered_eq] at h
  obtain ⟨base, hbase, h⟩ := bind_eq_ok_iff.1 h
  unfold underEnvironment at h
  rw [Overrides.ofEnvironment_eq] at h
  rcases hfirst : Variable.firstRefusal? front env with _ | e
  · rw [hfirst] at h
    cases h
    refine wholeSeconds_apply ?_ nofun
      (wholeSeconds_apply (fun d => isWhole_of_variable) (fun d => isWhole_of_variable)
        (wholeSeconds_of_below hbase))
    intro d hd
    obtain ⟨s, -, rfl⟩ := Option.map_eq_some_iff.1 hd
    exact Duration.isWhole_ofSeconds s
  · rw [hfirst] at h
    cases h

end Layers

end Configuration

/-! ## Numbers and names -/

theorem readAs_nat32 (n : UInt32) : (natValue n.toNat).ReadAs depth readNat32 n := by
  have hlimit : n.toNat ≤ Unsigned.max32 := Nat.le_pred_of_lt n.toNat_lt
  have hread : (natValue n.toNat).ReadAs depth (readNatural "u32" Unsigned.max32) n.toNat :=
    readAs_natural hlimit (by decide)
  have h := hread.map UInt32.ofNat
  rwa [UInt32.ofNat_toNat] at h

theorem readAs_nat64 (expected : String) (n : UInt64) :
    (natValue n.toNat).ReadAs depth (readNat64 expected) n := by
  have hlimit : n.toNat ≤ Unsigned.max64 := Nat.le_pred_of_lt n.toNat_lt
  have hread : (natValue n.toNat).ReadAs depth (readNatural expected Unsigned.max64) n.toNat :=
    readAs_natural hlimit le_rfl
  have h := hread.map UInt64.ofNat
  rwa [UInt64.ofNat_toNat] at h

/-- A duration is read as its whole seconds. -/
theorem readAs_seconds (d : Duration) : (secondsValue d).ReadAs depth readSeconds d.truncate := by
  have hlimit : d.seconds ≤ Unsigned.max64 := Nat.le_pred_of_lt d.seconds_lt
  have hread : (secondsValue d).ReadAs depth (readNatural "u64" Unsigned.max64) d.seconds :=
    readAs_natural hlimit le_rfl
  have h := hread.map fun n => Duration.ofSeconds (UInt64.ofNat n)
  rwa [Duration.ofSeconds_seconds] at h

theorem readAs_name {α : Type} {ofName : String → Except Mismatch α} {s : String} {a : α}
    (h : ofName s = .ok a) : (textValue s).ReadAs depth (readName ofName) a := by
  have hword : (textValue s).ReadAs 0 (readWord "variant identifier" ofName) a := readAs_word h
  exact readAs_scalar fun mark at_ i =>
    hword (.scalar mark none s (textStyle s)) (Node.isScalar_iff.2 ⟨mark, rfl⟩) at_ i (Nat.zero_le _)

/-! ## Parts of a configuration

The members of a part are followed by none, so that each may be followed by more. -/

theorem Target.readAs (t : Target) : (record t.members).ReadAs (depth + 2) Target.read t := by
  have hmembers : t.members = ("host", textValue t.host) ::
      (optionalMember "identifiers" .texts t.identifiers ++ []) := by
    rw [List.append_nil]
    rfl
  rw [hmembers]
  refine Sets.readAs (.set (readAs_text t.host) rfl (by decide) ?_)
  refine .optional readAs_texts nofun rfl (by decide) rfl ?_
  rw [Option.map_id']
  exact .nil

/-- The kind of a pacing. -/
def Pacing.kind : Pacing → PacingKind
  | none => .none
  | constant _ => .constant
  | between _ _ => .between

/-- The numbers of a pacing with their names. -/
def Pacing.numbers : Pacing → List (String × Binary64)
  | none => []
  | constant seconds => [("seconds", seconds)]
  | between least most => [("min", least), ("max", most)]

theorem Pacing.ofContent_numbers (p : Pacing) :
    ofContent p.kind (.members (numberContents p.numbers)) = .ok p := by
  cases p <;> rfl

theorem Pacing.areNames_numbers (p : Pacing) : AreNames "type" p.numbers := by
  cases p with
  | none => exact nofun
  | constant seconds => simp only [AreNames, numbers, List.forall_mem_cons]; decide
  | between least most => simp only [AreNames, numbers, List.forall_mem_cons]; decide

/-- **A pacing is read as itself**, whatever its kind. -/
theorem Pacing.readAs (p : Pacing) : (record p.members).ReadAs (depth + 1) Pacing.read p := by
  have hmembers : p.members = ("type", textValue p.kind.name) :: Value.numbers p.numbers := by
    cases p <;> rfl
  have hkind (k : PacingKind) : PacingKind.ofName k.name = .ok k := by cases k <;> decide
  rw [hmembers]
  exact (readAs_tagged (readAs_word (hkind p.kind)) (by decide) p.areNames_numbers).bind p.ofContent_numbers

theorem LoadShape.readAs (s : LoadShape) : (record s.members).ReadAs (depth + 2) LoadShape.read
    { s with runTime := s.runTime.map Duration.truncate } := by
  have hmembers : s.members = ("users", natValue s.users.toNat) ::
      ("spawn_rate", .scalar (.float s.spawnRate)) ::
      (optionalMember "run_time" secondsValue s.runTime ++ ("pacing", .record s.pacing.members) ::
        (optionalMember "seed" (fun n => natValue n.toNat) s.seed ++ [])) := by
    unfold LoadShape.members
    simp only [List.append_assoc, List.cons_append, List.nil_append, List.append_nil]
  rw [hmembers]
  refine Sets.readAs (.set (readAs_nat32 s.users) rfl (by decide) ?_)
  refine .set (readAs_float s.spawnRate) rfl (by decide) ?_
  refine .optional readAs_seconds nofun rfl (by decide) rfl ?_
  refine .set s.pacing.readAs rfl (by decide) ?_
  refine .optional (readAs_nat64 "u64") nofun rfl (by decide) rfl ?_
  rw [Option.map_id']
  exact .nil

theorem ConnectionPool.readAs (p : ConnectionPool) :
    (record p.members).ReadAs (depth + 1) ConnectionPool.read
      { p with
        idleTimeout := p.idleTimeout.truncate
        connectionTimeout := p.connectionTimeout.truncate } := by
  refine Sets.readAs (.set (readAs_nat64 "usize" p.maxIdlePerHost) rfl (by decide) ?_)
  refine .set (readAs_seconds p.idleTimeout) rfl (by decide) ?_
  exact .set (readAs_seconds p.connectionTimeout) rfl (by decide) .nil

theorem ClientOptions.readAs (o : ClientOptions) :
    (record o.members).ReadAs (depth + 2) ClientOptions.read
      { o with
        timeout := o.timeout.truncate
        pool :=
          { o.pool with
            idleTimeout := o.pool.idleTimeout.truncate
            connectionTimeout := o.pool.connectionTimeout.truncate } } := by
  refine Sets.readAs (.set (readAs_seconds o.timeout) rfl (by decide) ?_)
  refine .set (readAs_nat32 o.maxRedirects) rfl (by decide) ?_
  refine .set (readAs_text o.userAgent) rfl (by decide) ?_
  refine .set (readAs_bool o.verifyCertificates) rfl (by decide) ?_
  exact .set o.pool.readAs rfl (by decide) .nil

theorem LogOptions.readAs (o : LogOptions) :
    (record o.members).ReadAs (depth + 1) LogOptions.read o := by
  have hlevel : LogLevel.ofName o.level.name = .ok o.level := by cases o.level <;> decide
  have hformat : LogFormat.ofName o.format.name = .ok o.format := by cases o.format <;> decide
  have hmembers : o.members = ("level", textValue o.level.name) :: ("format", textValue o.format.name) ::
      (optionalMember "filter" textValue o.filter ++ []) := by
    rw [List.append_nil]
    rfl
  rw [hmembers]
  refine Sets.readAs (.set (readAs_name hlevel) rfl (by decide) ?_)
  refine .set (readAs_name hformat) rfl (by decide) ?_
  refine .optional readAs_text nofun rfl (by decide) rfl ?_
  rw [Option.map_id']
  exact .nil

namespace Configuration

variable {c : Configuration}

/-- **The members of a configuration are read as the configuration** with its durations cut. -/
theorem readAs (c : Configuration) : (record c.members).ReadAs 3 Configuration.read c.truncated := by
  refine Sets.readAs (.set c.target.readAs rfl (by decide) ?_)
  refine .set c.swarm.readAs rfl (by decide) ?_
  refine .set c.client.readAs rfl (by decide) ?_
  exact .set c.log.readAs rfl (by decide) .nil

/-! ## Whole configurations -/

/-- **What becomes of a configuration that is written and read.** -/
structure RoundTrip (c : Configuration) : Prop where
  /-- durations are cut to whole seconds, and nothing else is changed -/
  read : ofYaml c.yaml = .ok c.truncated
  /-- with whole seconds the same configuration is read -/
  same : c.WholeSeconds → ofYaml c.yaml = .ok c
  /-- it is as valid as before -/
  validate : c.WholeSeconds → ∀ r, ofYaml c.yaml = .ok r → r.validate = c.validate
  /-- what was read is written with the same text -/
  text : ∀ r, ofYaml c.yaml = .ok r → r.yaml = c.yaml
  /-- whatever files, variables and flags give has whole seconds -/
  layers : ∀ front file env (flags : RunFlags) base, layered front file env = .ok base →
    c = flags.overrides.apply base → c.WholeSeconds

/-- **Configurations that are written are read**, if the text shows the members that were written. -/
theorem roundTrip (c : Configuration) (h : (Document.ofText c.yaml).Shows (.record c.members)) :
    c.RoundTrip := by
  have hread : ofYaml c.yaml = .ok c.truncated := h.read c.readAs (by decide)
  have hsame (hwhole : c.WholeSeconds) : ofYaml c.yaml = .ok c := by
    rw [hread, hwhole.truncated_eq]
  refine ⟨hread, hsame, ?_, ?_, ?_⟩
  · intro hwhole r hr
    rw [hsame hwhole] at hr
    cases hr
    rfl
  · intro r hr
    rw [hread] at hr
    cases hr
    exact congrArg renderRecord c.members_truncated
  · rintro front file env flags base hbase rfl
    exact wholeSeconds_of_layered flags hbase

/-- All options are there, and the time limit is no whole number of seconds. -/
def written : Configuration :=
  { target := { host := "a b", identifiers := some ["null", "01"] }
    swarm :=
      { spawnRate := Binary64.ofFraction false 1 4
        runTime := some ⟨1500000000, by decide⟩
        pacing := .between (Binary64.ofNat 1) (Binary64.ofNat 3)
        seed := some 7 }
    client := { userAgent := "" }
    log := { filter := some " a" } }

/-- Texts that would mean something else are quoted, and half a second is lost. -/
theorem roundTrip_written : (Document.ofText written.yaml).Shows (.record written.members) ∧
    RoundTrip written ∧ ¬ written.WholeSeconds :=
  have hchars : (Document.ofChars (Value.memberLines 0 written.members)).Shows
      (.record written.members) := by decide +kernel
  have h : (Document.ofText written.yaml).Shows (.record written.members) :=
    Document.ofText_renderRecord written.members ▸ hchars
  ⟨h, roundTrip written h, fun hwhole => absurd (hwhole.runTime _ rfl) (by decide)⟩

end Configuration

end LoadSwarm
