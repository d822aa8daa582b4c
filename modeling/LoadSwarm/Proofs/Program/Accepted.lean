/-
  Configurations that are accepted for a run do not make the run fail.

  * `NoFailure`: the users of a run choose from some identifiers, and none has failed.
  * `Change.noFailure`: a user that has identifiers and a stream of random words does not fail.
  * `conclude_of_noFailure`: a run without failed users returns a report.
  * `accepted_run_succeeds`: what is accepted makes settings, identifiers and users of that kind.
-/
import LoadSwarm.Program.LoadRun
import LoadSwarm.Proofs.Config.Validation
import LoadSwarm.Proofs.Swarm.Result
import LoadSwarm.Proofs.Users.Moves

namespace LoadSwarm

theorem Configuration.validated_eq_ok_iff {c c' : Configuration} :
    c.validated = .ok c' ↔ c' = c ∧ c.target.validate = .ok () ∧ c.swarm.validate = .ok () ∧
      c.client.validate = .ok () ∧ c.log.validate = .ok () := by
  rw [validated_eq_ok]
  refine and_congr_right fun h => ?_
  subst h
  unfold Configuration.validate
  rw [Check.bind_eq_ok_iff, Check.bind_eq_ok_iff, Check.bind_eq_ok_iff]

/-- An accepted target has identifiers: its own ones or those that are built in. -/
theorem Identifiers.ofTarget_isEmpty {t : Target} (h : t.validate = .ok ()) :
    (Identifiers.ofTarget t).isEmpty = false := by
  unfold ofTarget
  rcases hids : t.identifiers with _ | ids
  · rfl
  · have hne := ((Target.validate_eq_ok_iff.1 h).2 ids hids).1
    simpa [isEmpty] using hne

/-- The time between two lines of progress is none or some. -/
theorem LoadRun.progressInterval_ne_zero (o : RunOptions) :
    LoadRun.progressInterval o ≠ some Duration.zero := by
  unfold progressInterval
  split_ifs with h
  · nofun
  · intro hz
    have hn : o.statsInterval.toNat * nanosPerSecond = 0 :=
      congrArg Duration.nanos (Option.some.inj hz)
    have : o.statsInterval.toNat = 0 := by simpa [nanosPerSecond] using hn
    exact h (UInt64.toNat_inj.1 this)

namespace SwarmRun

variable {w : Surroundings (User WordStream)} {s s' : SwarmRun (User WordStream)}

/-- The users choose from the same identifiers, and none of them has failed. -/
def NoFailure (ids : Identifiers) (users : List (UserTask (User WordStream))) : Prop :=
  ∀ t ∈ users, t.behavior.identifiers = ids ∧ ∀ e, t.exit? ≠ some (.failed e)

theorem NoFailure.set {ids : Identifiers} {users : List (UserTask (User WordStream))}
    (h : NoFailure ids users) {i : Nat} {t t' : UserTask (User WordStream)}
    (user : users[i]? = some t) (same : t'.behavior.identifiers = t.behavior.identifiers)
    (good : ∀ e, t'.phase ≠ .ended (.failed e)) : NoFailure ids (users.set i t') := by
  intro u hu
  rcases List.mem_or_eq_of_mem_set hu with hu | rfl
  · exact h u hu
  · exact ⟨same.trans (h t (List.mem_of_getElem? user)).1,
      fun e he => good e (UserTask.exit?_eq_some_iff.1 he)⟩

/-- **A user with identifiers and a stream of random words does not fail.** -/
theorem Change.noFailure (hc : Change w s s') {ids : Identifiers} (hne : ids.isEmpty = false)
    (hmake : ∀ i, (w.make i).identifiers = ids) (h : NoFailure ids s.users) :
    NoFailure ids s'.users := by
  cases hc with
  | request i t path b user turn going move | crash i t message b user turn going move =>
    have hb : b = t.behavior.next.2 := (congrArg Prod.snd move).symm
    exact h.set user (by rw [hb]; exact User.next_identifiers _) nofun
  | overflow i t number path since due outcome stats o user
  | answerYield i t number path since due outcome stats user
  | answerWait i t number path since due outcome stats d user
  | answerCrash i t number path since due outcome stats e user
  | stop i t user => exact h.set user rfl nofun
  | fail i t e b user turn going move =>
    have hids := (h t (List.mem_of_getElem? user)).1
    obtain ⟨id, -, hreq⟩ := User.next_of_stream (u := t.behavior) (by rw [hids]; exact hne)
    have hfail : t.behavior.next.1 = .fail e := congrArg Prod.fst move
    rw [hreq] at hfail; cases hfail
  | spawn i _ _ _ =>
    intro u hu
    rcases List.mem_append.1 hu with hu | hu
    · exact h u hu
    · cases List.mem_singleton.1 hu
      exact ⟨hmake i, nofun⟩
  | _ => exact h

theorem leads_noFailure {ids : Identifiers} (hne : ids.isEmpty = false)
    (hmake : ∀ i, (w.make i).identifiers = ids) {settings : SwarmSettings} {latch : Latch}
    {start : Nat} (h : Leads w (.begin w settings latch start) s) : NoFailure ids s.users :=
  h.induction (P := fun s => NoFailure ids s.users) (fun _ _ _ hs hc => hc.noFailure hne hmake hs)
    (fun _ _ _ hs => hs) nofun

/-- **A run without failed users returns a report.** -/
theorem conclude_of_noFailure {settings : SwarmSettings} {latch : Latch} {start : Nat}
    (h : Leads w (.begin w settings latch start) s) {ids : Identifiers}
    (hno : NoFailure ids s.users) (r : StatsReport) : s.conclude r = .ok r := by
  obtain ⟨heard, hh⟩ := leads_hears h
  have hnil : s.tally.failures = [] := by
    rw [hh.failures_eq]
    refine List.filterMap_eq_nil_iff.2 fun i _ => ?_
    rw [exitOf?_eq]
    rcases hu : s.users[i]? with _ | t
    · rfl
    · have hexit := (hno t (List.mem_of_getElem? hu)).2
      rcases he : t.exit? with _ | _ | e | _
      · simp [he]
      · simp [he, UserExit.error?]
      · exact absurd he (hexit e)
      · simp [he, UserExit.error?]
  unfold conclude; rw [hnil]

end SwarmRun

open SwarmRun in
/-- **An accepted configuration cannot make a run fail.**  Its settings can be run, there are
    identifiers, and in every run with users that choose from them by streams of random words,
    whatever the client, the order and the pace of the tasks, no user fails, and the run returns a
    report, unless the sums of all figures leave their ranges. -/
theorem accepted_run_succeeds (base c : Configuration) (o : RunOptions)
    (h : (o.overrides.apply base).validated = .ok c) :
    (∃ swarm, Swarm.new (LoadRun.settings c o) = .ok swarm ∧ swarm.settings = LoadRun.settings c o) ∧
    (Identifiers.ofTarget c.target).isEmpty = false ∧
    ∀ (w : Surroundings (User WordStream)),
      (∀ i, (w.make i).identifiers = Identifiers.ofTarget c.target) →
      ∀ (latch : Latch) (start : Nat) (s : SwarmRun (User WordStream)),
        Reaches w (.begin w (LoadRun.settings c o) latch start) s →
        (∀ t ∈ s.users, ∀ e, t.exit? ≠ some (.failed e)) ∧
        ∀ time result, s.stage = .returned time result →
          (∃ report, result = .ok report) ∨ ∃ overflow, s.stats.total = .error overflow := by
  obtain ⟨rfl, htarget, hswarm, -, -⟩ := Configuration.validated_eq_ok_iff.1 h
  have hne := Identifiers.ofTarget_isEmpty htarget
  refine ⟨⟨⟨LoadRun.settings (o.overrides.apply base) o, {}⟩, ?_, rfl⟩, hne,
    fun w hmake latch start s hreach => ⟨?_, fun time result hst => ?_⟩⟩
  · unfold Swarm.new LoadRun.settings
    rw [LoadShape.validate_settings hswarm (LoadRun.progressInterval_ne_zero o)]
  · exact fun t ht => (leads_noFailure hne hmake hreach.leads t ht).2
  · rcases leads_result hreach.leads time result hst with ⟨_, report, -, hr⟩ | ⟨overflow, ho, -⟩
    · rw [conclude_of_noFailure hreach.leads (leads_noFailure hne hmake hreach.leads)] at hr
      exact .inl ⟨report, hr⟩
    · exact .inr ⟨overflow, ho⟩

/-- Five users on a service of the same machine, two of them started per second. -/
def fiveUsers : Configuration where
  target := { host := "http://[::1]", identifiers := some ["a"] }
  swarm := { users := 5, spawnRate := Binary64.ofNat 2 }

/-- A run time of ten seconds, and a seed. -/
def seededRun : RunOptions where
  overrides := { runTime := some (Duration.ofSeconds 10), seed := some 7 }

/-- A client that answers after three milliseconds. -/
def slowWorld : Surroundings (User WordStream) where
  make := LoadRun.user (seededRun.overrides.apply fiveUsers) fun _ => 0
  client _ _ := { outcome := .ok ⟨200, 5⟩, latency := 3 }

open SwarmRun in
theorem accepted_run_succeeds_fiveUsers :
    let c := seededRun.overrides.apply fiveUsers
    let s := run slowWorld (.begin slowWorld (LoadRun.settings c seededRun) {} 0)
      [.poll .stage fun _ => true, .poll (.user 0) fun _ => true, .trigger "interrupted",
        .poll (.user 0) fun _ => true, .poll .stage fun _ => true]
    c.validated = .ok c ∧ (Identifiers.ofTarget c.target).isEmpty = false ∧
      (∃ swarm, Swarm.new (LoadRun.settings c seededRun) = .ok swarm ∧
        swarm.settings = LoadRun.settings c seededRun) ∧
      (∀ t ∈ s.users, ∀ e, t.exit? ≠ some (.failed e)) ∧
      ∀ time result, s.stage = .returned time result →
        (∃ report, result = .ok report) ∨ ∃ overflow, s.stats.total = .error overflow := by
  intro c s
  have h : c.validated = .ok c := by decide +kernel
  obtain ⟨hnew, hids, hrun⟩ := accepted_run_succeeds fiveUsers c seededRun h
  exact ⟨h, hids, hnew, hrun slowWorld (fun _ => rfl) {} 0 s (run_reaches _ _)⟩

end LoadSwarm
