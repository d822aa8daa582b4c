/-
  The times at which a run makes its users.

  * `OnSchedule step s`: users are made in order, a step after one another, and the next one is
    not late.
  * `run_onSchedule`: so it is in every run, whatever its users do.
  * `stageWalk_own`: the run itself stops only after the last user.
  * `StopsAt.mem_made`, `StopsAt.due_le`: the users that are due before the stop, and after it.
  * `SpawnSchedule w s₀ step`: up to the stop of a run, exactly the users are made that are due.
-/
import LoadSwarm.Proofs.Swarm.Paths
import LoadSwarm.Proofs.Swarm.Stop

namespace LoadSwarm

namespace SwarmRun

variable {β : Type} {w : Surroundings β} {s s' s₀ : SwarmRun β}
  {settings : SwarmSettings} {latch : Latch} {start : Nat}

/-! ## The schedule -/

/-- After a user was made, the run pauses if there is another one to make after a time. -/
theorem spawn_stage_cases (w : Surroundings β) (s : SwarmRun β) (i : Nat) :
    ((s.spawn w i).stage = .spawning (i + 1) ∧
      (i + 1 < s.settings.users → s.settings.spawnInterval = Duration.zero)) ∨
    ((s.spawn w i).stage = .pausing (i + 1) (s.now + s.clock.sleep s.settings.spawnInterval) ∧
      i + 1 < s.settings.users) := by
  unfold spawn
  dsimp only
  split_ifs with hif
  · rw [Bool.and_eq_true, decide_eq_true_eq] at hif
    exact .inr ⟨rfl, hif.1⟩
  · refine .inl ⟨rfl, fun hi => ?_⟩
    by_contra hne
    exact hif (by simp [hi, hne])

/-- **Users are made in order, a step after one another**, and the next one is not late. -/
structure OnSchedule (step : Nat) (s : SwarmRun β) : Prop where
  made : s.made.reverse = (List.range s.users.length).map fun i => (s.start + i * step, i)
  room : s.users.length ≤ s.settings.users
  past : ∀ e ∈ s.made, e.1 ≤ s.now
  spawning : ∀ i, s.stage = .spawning i → i < s.settings.users → s.now = s.start + i * step
  pausing : ∀ i due, s.stage = .pausing i due →
    i < s.settings.users ∧ due = s.start + i * step ∧ s.now ≤ due
  /-- unless the run was stopped, no user is left out -/
  last : s.stage.next? = none → s.isStopping = true ∨ s.users.length = s.settings.users

namespace OnSchedule
variable {step : Nat}

theorem begin : OnSchedule step (.begin w settings latch start) where
  made := rfl
  room := Nat.zero_le _
  past := nofun
  spawning i hst _ := by cases hst; simp [SwarmRun.begin]
  pausing i due hst := by cases hst
  last hst := by cases hst

theorem length_made (h : OnSchedule step s) : s.made.length = s.users.length := by
  simpa using congrArg List.length h.made

theorem mem_made (h : OnSchedule step s) {time i : Nat} :
    (time, i) ∈ s.made ↔ i < s.users.length ∧ time = s.start + i * step := by
  rw [← List.mem_reverse, h.made]
  simp only [List.mem_map, List.mem_range, Prod.mk.injEq]
  constructor
  · rintro ⟨j, hj, rfl, rfl⟩; exact ⟨hj, rfl⟩
  · rintro ⟨hi, rfl⟩; exact ⟨i, hi, rfl, rfl⟩

/-- The next user is made. -/
theorem spawn (h : OnSchedule (s.clock.sleep s.settings.spawnInterval) s) {i : Nat}
    (stage : s.stage = .spawning i) (next : i = s.users.length) (room : i < s.settings.users) :
    OnSchedule (s.clock.sleep s.settings.spawnInterval) (s.spawn w i) := by
  have hnow := h.spawning i stage room
  subst next
  have hlen : (s.spawn w s.users.length).users.length = s.users.length + 1 := List.length_append
  refine ⟨?_, ?_, ?_, fun j hst hj => ?_, fun j due hst => ?_, fun hst => ?_⟩
  · rw [hlen, List.range_succ, List.map_append]
    unfold SwarmRun.spawn
    rw [List.reverse_cons, h.made, hnow]; rfl
  · rw [hlen]; exact room
  · intro e he
    rcases List.mem_cons.1 he with rfl | he
    · exact Nat.le_refl _
    · exact h.past e he
  · rcases spawn_stage_cases w s s.users.length with ⟨hstage, hzero⟩ | ⟨hstage, -⟩
    · obtain rfl := Stage.spawning.inj (hstage.symm.trans hst)
      -- there is no time between two users only if the interval is none
      show s.now = s.start + (s.users.length + 1) * s.clock.sleep s.settings.spawnInterval
      have hsleep : s.clock.sleep Duration.zero = 0 := Nat.le_zero.1 (s.clock.sleep_le _)
      rw [hnow, hzero hj, hsleep]; rfl
    · rw [hstage] at hst; cases hst
  · rcases spawn_stage_cases w s s.users.length with ⟨hstage, -⟩ | ⟨hstage, hroom⟩
    · rw [hstage] at hst; cases hst
    · obtain ⟨rfl, rfl⟩ := Stage.pausing.inj (hstage.symm.trans hst)
      refine ⟨hroom, ?_, Nat.le_add_right _ _⟩
      rw [hnow, Nat.add_mul, Nat.one_mul, Nat.add_assoc]; rfl
  · rcases spawn_stage_cases w s s.users.length with ⟨hstage, -⟩ | ⟨hstage, -⟩ <;>
      (rw [hstage] at hst; cases hst)

/-- **Unless the run was stopped, every user that was due before now has been made.** -/
theorem lt_length (h : OnSchedule step s)
    (next : ∀ i, s.stage.next? = some i → i = s.users.length) (going : s.isStopping = false) {i : Nat}
    (hi : i < s.settings.users) (due : s.start + i * step < s.now) : i < s.users.length := by
  by_contra hle
  have hroom : s.users.length < s.settings.users := by omega
  have hdue : s.start + s.users.length * step ≤ s.start + i * step :=
    Nat.add_le_add_left (Nat.mul_le_mul_right _ (by omega)) _
  cases hst : s.stage with
  | spawning j =>
    obtain rfl := next j (by rw [hst]; rfl)
    have := h.spawning _ hst hroom
    omega
  | pausing j d =>
    obtain rfl := next j (by rw [hst]; rfl)
    obtain ⟨-, rfl, hnow⟩ := h.pausing _ d hst
    omega
  | joining | draining | returned =>
    rcases h.last (by rw [hst]; rfl) with hs | hall
    · rw [hs] at going; cases going
    · omega

end OnSchedule

/-- The run itself triggers the stop only as it waits for its users. -/
theorem stageStep_latch {first : Bool} (h : stageStep w first s = some s') :
    s'.latch = s.latch ∨ s.stage = .joining := by
  unfold stageStep at h
  split at h
  · split_ifs at h <;> (cases h; exact .inl rfl)
  · split at h <;> cases h <;> exact .inl rfl
  · next hst => exact .inr hst
  · split at h
    · cases h; rw [hear_eq]; exact .inl rfl
    · split_ifs at h
      cases h
      have hfinish : (s.finish w).latch = s.latch := by
        unfold finish
        dsimp only
        split <;> rfl
      exact .inl hfinish
  · cases h

variable [Behavior β]

/-! ## Users that were made -/

/-- A change makes the user that is next, or none. -/
theorem Change.made_cases (hc : Change w s s') :
    (∃ i, s.stage = .spawning i ∧ i < s.settings.users ∧ s' = s.spawn w i) ∨
      s'.made = s.made ∧ s'.users.length = s.users.length := by
  cases hc with
  | spawn i stage room => exact .inl ⟨i, stage, room, rfl⟩
  | request | overflow | answerYield | answerWait | answerCrash | stop | fail | crash =>
    exact .inr ⟨rfl, List.length_set⟩
  | _ => exact .inr ⟨rfl, rfl⟩

theorem Leads.made_suffix (h : Leads w s s') : s.made <:+ s'.made := by
  refine h.induction (P := fun s' => s.made <:+ s'.made) (fun s₁ s₂ _ ih hc => ?_)
    (fun _ _ _ ih => ih) List.suffix_rfl
  rcases hc.made_cases with ⟨i, -, -, rfl⟩ | ⟨hmade, -⟩
  · exact ih.trans (List.suffix_cons _ _)
  · rw [hmade]; exact ih

/-! ## Steps of the schedule -/

/-- No user is made, and the run itself goes no further. -/
theorem OnSchedule.keep {step : Nat} (h : OnSchedule step s) (hc : Change w s s') (made : s'.made = s.made)
    (users : s'.users.length = s.users.length) (stage : s'.stage = s.stage) :
    OnSchedule step s' := by
  refine ⟨?_, ?_, ?_, ?_, ?_, ?_⟩
  · rw [made, users, hc.start_eq]; exact h.made
  · rw [users, hc.settings_eq]; exact h.room
  · rw [made, hc.now_eq]; exact h.past
  · rw [stage, hc.settings_eq, hc.now_eq, hc.start_eq]; exact h.spawning
  · rw [stage, hc.settings_eq, hc.now_eq, hc.start_eq]; exact h.pausing
  · rw [stage, users, hc.settings_eq]
    exact fun hst => (h.last hst).imp_left hc.isStopping

/-- The run itself goes on to where it makes no users. -/
theorem OnSchedule.leave {step : Nat} (h : OnSchedule step s) (hc : Change w s s') (made : s'.made = s.made)
    (users : s'.users = s.users) (stage : s'.stage.next? = none)
    (last : s'.isStopping = true ∨ s.users.length = s.settings.users) : OnSchedule step s' := by
  refine ⟨?_, ?_, ?_, fun i hst => ?_, fun i due hst => ?_, fun _ => ?_⟩
  · rw [made, users, hc.start_eq]; exact h.made
  · rw [users, hc.settings_eq]; exact h.room
  · rw [made, hc.now_eq]; exact h.past
  · rw [hst] at stage; cases stage
  · rw [hst] at stage; cases stage
  · rw [users, hc.settings_eq]; exact last

theorem Change.onSchedule (hc : Change w s s')
    (h : OnSchedule (s.clock.sleep s.settings.spawnInterval) s)
    (next : ∀ i, s.stage.next? = some i → i = s.users.length) :
    OnSchedule (s.clock.sleep s.settings.spawnInterval) s' := by
  have hc' := hc
  cases hc with
  | spawn i stage room => exact h.spawn stage (next i (by rw [stage]; rfl)) room
  | resumeSpawning i due stage ready =>
    obtain ⟨-, hdue, hle⟩ := h.pausing i due stage
    refine ⟨h.made, h.room, h.past, fun j hst _ => ?_, nofun, nofun⟩
    cases hst
    exact (Nat.le_antisymm hle ready).trans hdue
  | endSpawning ready =>
    refine h.leave hc' rfl rfl rfl ?_
    rcases ready with ⟨i, stage, hall | hstop⟩ | ⟨i, due, stage, hstop⟩
    · -- the last user was made
      obtain rfl := next i (by rw [stage]; rfl)
      exact .inr (Nat.le_antisymm h.room hall)
    · exact .inl hstop
    · exact .inl hstop
  | endJoining stage => exact h.leave hc' rfl rfl rfl (.inl (Latch.isTriggered_trigger s.latch _))
  | report r stage | noReport o stage => exact h.leave hc' rfl rfl rfl (h.last (by rw [stage]; rfl))
  | request | overflow | answerYield | answerWait | answerCrash | stop | fail | crash =>
    exact h.keep hc' rfl List.length_set rfl
  | _ => exact h.keep hc' rfl rfl rfl

theorem Changes.onSchedule (hcs : Changes w s s') (hl : Leads w (.begin w settings latch start) s)
    (h : OnSchedule (w.clock.sleep settings.spawnInterval) s) :
    OnSchedule (w.clock.sleep settings.spawnInterval) s' := by
  refine hcs.induction (P := fun s => OnSchedule (w.clock.sleep settings.spawnInterval) s)
    (fun s₁ s₂ hcs hs hc => ?_) h
  have hl₁ : Leads w (.begin w settings latch start) s₁ := hl.trans hcs.leads
  have hsettings : s₁.settings = settings := hl₁.settings_eq
  have hclock : s₁.clock = w.clock := hl₁.clock_eq
  rw [← hsettings, ← hclock] at hs ⊢
  exact hc.onSchedule hs (leads_followed hl₁).next

/-- **In every run, users are made when they are due**, whatever they do. -/
theorem run_onSchedule (w : Surroundings β) (settings : SwarmSettings) (latch : Latch) (start : Nat)
    (as : List Action) : OnSchedule (w.clock.sleep settings.spawnInterval)
      (run w (.begin w settings latch start) as) := by
  refine run_induction
    (P := fun s => OnSchedule (w.clock.sleep settings.spawnInterval) s)
    (fun s₁ s₂ hl hs hc => Changes.onSchedule (.single hc) hl hs)
    (fun s₁ time hl hidle hle hdue hs => ?_) .begin as
  -- time passes only up to the time of the next user
  refine ⟨hs.made, hs.room, fun e he => (hs.past e he).trans hle, fun i hst _ => ?_,
    fun i due hst => ?_, hs.last⟩
  · have hst' : s₁.stage = .spawning i := hst
    have hready : s₁.stageReady = true := by unfold stageReady; rw [hst']
    simp [isIdle, hready] at hidle
  · have hst' : s₁.stage = .pausing i due := hst
    obtain ⟨hroom, hsched, hnow⟩ := hs.pausing i due hst'
    have hmem : due ∈ s₁.dues := by simp [dues, hst']
    exact ⟨hroom, hsched, hdue due hmem hnow⟩

/-! ## The stop -/

/-- **The run itself stops only after the last user was made.** -/
theorem stageWalk_own (first : Nat → Bool) (n : Nat)
    (hl : Leads w (.begin w settings latch start) s)
    (h : OnSchedule (w.clock.sleep settings.spawnInterval) s) (going : s.isStopping = false) :
    (stageWalk w first n s).isStopping = false ∨
      settings.users ≤ (stageWalk w first n s).made.length := by
  induction n generalizing s with
  | zero => exact .inl going
  | succ n ih =>
    unfold stageWalk
    rcases hs : stageStep w (first n) s with _ | s'
    · exact .inl going
    · have hc := stageStep_change hs
      rcases stageStep_latch hs with hlatch | hst
      · -- the stop was not triggered in this step
        have going' : s'.isStopping = false := by unfold isStopping; rw [hlatch]; exact going
        exact ih (hl.tail (.change s' hc)) (Changes.onSchedule (.single hc) hl h) going'
      · -- all users have been made by now
        have hall := (h.last (by rw [hst]; rfl)).resolve_left (by rw [going]; exact Bool.false_ne_true)
        have hwalk : Changes w s' (stageWalk w first n s') :=
          stageWalk_steps (fun _ _ _ h => stageStep_change h) first n s'
        have hle := (Changes.leads (hwalk.head hc)).made_suffix.length_le
        rw [h.length_made, hall, hl.settings_eq] at hle
        exact .inr hle

/-- If the run itself triggers the stop, it has made all its users. -/
theorem StopsAt.made_all {as : List Action} {first : Nat → Bool} {time : Nat}
    (h : StopsAt w (.begin w settings latch start) (as ++ [.poll .stage first]) time) :
    (run w (.begin w settings latch start) (as ++ [.poll .stage first])).made.length =
      settings.users := by
  have hs := run_onSchedule w settings latch start (as ++ [.poll .stage first])
  refine Nat.le_antisymm ?_ ?_
  · have hroom := hs.room
    rw [(run_leads _ _).settings_eq] at hroom
    rw [hs.length_made]; exact hroom
  · generalize hbefore : as ++ [Action.poll .stage first] = before at h
    cases h with
    | early => simp at hbefore
    | during as' a going stopping =>
      obtain ⟨rfl, ha⟩ := List.append_inj' hbefore rfl
      cases ha
      rw [run_concat] at stopping ⊢
      refine (stageWalk_own first _ (run_leads _ as) (run_onSchedule w settings latch start as)
        going).resolve_left fun hno => ?_
      have hno' : (act w (run w (.begin w settings latch start) as)
          (.poll .stage first)).isStopping = false := hno
      rw [hno'] at stopping; cases stopping

/-! ## The schedule of a run -/

/-- No user is made after the stop. -/
theorem StopsAt.made_eq {before : List Action} {time : Nat} (h : StopsAt w s₀ before time)
    (after : List Action) : (run w s₀ (before ++ after)).made = (run w s₀ before).made := by
  rw [run_append]
  exact ((run_leads _ after).final h.stopping).1

/-- **Every user that is due before the stop is made**, when it is due. -/
theorem StopsAt.mem_made {before : List Action} {time i : Nat}
    (h : StopsAt w (.begin w settings latch start) before time) (hi : i < settings.users)
    (due : start + i * w.clock.sleep settings.spawnInterval < time) (after : List Action) :
    (start + i * w.clock.sleep settings.spawnInterval, i) ∈
      (run w (.begin w settings latch start) (before ++ after)).made := by
  cases h with
  | early => exact absurd due (Nat.not_lt.2 (Nat.le_add_right _ _))
  | during as a going stopping =>
    -- the user was made before the action that triggers the stop
    have hl := run_leads (w := w) (.begin w settings latch start) as
    have hs := run_onSchedule w settings latch start as
    have hstart : (run w (.begin w settings latch start) as).start = start := hl.start_eq
    have hlt : i < (run w (.begin w settings latch start) as).users.length :=
      hs.lt_length (leads_followed hl).next going (by rw [hl.settings_eq]; exact hi)
        (by rw [hstart]; exact due)
    rw [List.append_assoc, run_append]
    exact (run_leads _ ([a] ++ after)).made_suffix.subset
      (hs.mem_made.2 ⟨hlt, by rw [hstart]⟩)

/-- **No user is made that is due after the stop.** -/
theorem StopsAt.due_le {before after : List Action} {time made i : Nat}
    (h : StopsAt w (.begin w settings latch start) before time)
    (hmem : (made, i) ∈ (run w (.begin w settings latch start) (before ++ after)).made) :
    start + i * w.clock.sleep settings.spawnInterval ≤ time := by
  have hs := run_onSchedule w settings latch start before
  have hstart : (run w (.begin w settings latch start) before).start = start :=
    (run_leads _ before).start_eq
  rw [h.made_eq] at hmem
  have hdue := (hs.mem_made.1 hmem).2
  have hpast : made ≤ (run w (.begin w settings latch start) before).now := hs.past _ hmem
  rwa [h.now_eq, hdue, hstart] at hpast

/-- A run that has returned has made all its users, or something else has stopped it. -/
theorem made_all_of_returned {as : List Action}
    (h : (run w (.begin w settings latch start) as).stage.isReturned = true) :
    (run w (.begin w settings latch start) as).made.length = settings.users ∨
      latch.isTriggered = true ∨ ∃ before action after time, as = before ++ action :: after ∧
        StopsAt w (.begin w settings latch start) (before ++ [action]) time ∧
        ∀ first, action ≠ .poll .stage first := by
  obtain ⟨before, after, time, rfl, hstop⟩ := exists_stopsAt (stopping_of_returned (run_leads _ as) h)
  rw [hstop.made_eq]
  have hstop' := hstop
  cases hstop with
  | early stopping => exact .inr (.inl stopping)
  | during as a going stopping =>
    by_cases ha : ∃ first, a = .poll .stage first
    · obtain ⟨first, rfl⟩ := ha
      exact .inl hstop'.made_all
    · exact .inr (.inr ⟨as, a, after, _, by simp, hstop', fun first ha' => ha ⟨first, ha'⟩⟩)

/-- **Up to the stop of a run, exactly the users are made that are due.** -/
structure SpawnSchedule (w : Surroundings β) (s₀ : SwarmRun β) (step : Nat) : Prop where
  /-- users are made in order, each once, a step after one another -/
  made : ∀ actions, ∃ k ≤ s₀.settings.users,
    (run w s₀ actions).made.reverse = (List.range k).map fun i => (s₀.start + i * step, i)
  /-- every user is made that is due before the stop -/
  complete : ∀ before time after i, StopsAt w s₀ before time → i < s₀.settings.users →
    s₀.start + i * step < time → (s₀.start + i * step, i) ∈ (run w s₀ (before ++ after)).made
  /-- and none that is due after it -/
  notAfter : ∀ before time after i, StopsAt w s₀ before time → time < s₀.start + i * step →
    ∀ made, (made, i) ∉ (run w s₀ (before ++ after)).made
  /-- a run makes all its users, whatever they do, before it stops by itself -/
  own : ∀ actions first time, StopsAt w s₀ (actions ++ [.poll .stage first]) time →
    (run w s₀ (actions ++ [.poll .stage first])).made.length = s₀.settings.users
  /-- so that it has made them as it returns, unless something else has stopped it -/
  returned : ∀ actions, (run w s₀ actions).stage.isReturned = true →
    (run w s₀ actions).made.length = s₀.settings.users ∨ s₀.isStopping = true ∨
      ∃ before action after time, actions = before ++ action :: after ∧
        StopsAt w s₀ (before ++ [action]) time ∧ ∀ first, action ≠ .poll .stage first

/-- **Users are made when they are due**, for any users, any order of the tasks and any moment of
    the stop, as long as the clock keeps the sleep between two users. -/
theorem begin_spawnSchedule (w : Surroundings β) (settings : SwarmSettings) (latch : Latch)
    (start : Nat) (keeps : w.clock.KeepsSleep settings.spawnInterval) :
    SpawnSchedule w (.begin w settings latch start) settings.spawnInterval.ceilMillis := by
  rw [← keeps]
  refine ⟨fun actions => ?_, fun before time after i h hi due => h.mem_made hi due after,
    fun before time after i h due made hmem => Nat.not_lt.2 (h.due_le hmem) due,
    fun actions first time h => h.made_all, fun actions hret => made_all_of_returned hret⟩
  have hs := run_onSchedule w settings latch start actions
  have hl := run_leads (w := w) (.begin w settings latch start) actions
  have hmade := hs.made
  have hroom := hs.room
  rw [hl.start_eq] at hmade
  rw [hl.settings_eq] at hroom
  exact ⟨_, hroom, hmade⟩

/-- Users with nothing to choose from. -/
def nothingToChoose : Surroundings (User Script) where
  make _ := ⟨⟨["a"]⟩, ⟨[some 1], 0⟩⟩
  client _ _ := { outcome := .ok ⟨200, 5⟩ }

/-- The first user fails long before the second one is made. -/
def failedOneByOne : List Action :=
  [.poll .stage fun _ => true, .poll (.user 0) fun _ => true, .advance 1000,
    .poll .stage fun _ => true, .poll (.user 1) fun _ => true, .poll .stage fun _ => true]

theorem begin_spawnSchedule_fourPerSecond :
    let settings : SwarmSettings := { users := 2, spawnRate := Binary64.ofNat 4 }
    let s₀ : SwarmRun (User Script) := .begin nothingToChoose settings {} 0
    let s := run nothingToChoose s₀ failedOneByOne
    nothingToChoose.clock.KeepsSleep settings.spawnInterval ∧
      settings.spawnInterval.ceilMillis = 250 ∧ s.stage.isReturned = true ∧
      s.made = [(250, 1), (0, 0)] ∧ SpawnSchedule nothingToChoose s₀ 250 := by
  intro settings s₀ s
  have keeps : nothingToChoose.clock.KeepsSleep settings.spawnInterval := Clock.exact_keepsSleep _
  have hstep : settings.spawnInterval.ceilMillis = 250 := by decide +kernel
  have hsched := begin_spawnSchedule nothingToChoose settings {} 0 keeps
  rw [hstep] at hsched
  exact ⟨keeps, hstep, by decide +kernel, by decide +kernel, hsched⟩

end SwarmRun

end LoadSwarm
