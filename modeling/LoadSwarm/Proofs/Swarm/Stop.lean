/-
  The stop of a run is prompt and final.

  * `Leads.final`: once the stop is triggered, no user is made and no request starts.
  * `not_idle`: a stopped run that has not returned has a task that can go on, so no time passes.
  * `returned_of_turns`: it has returned once every user and then the run itself had a turn.
  * `StopsAt w s₀ before time`: the actions `before` trigger the stop, at a time.
  * `PromptStop`: every run returns at the time of its stop, and no later than its run time.
-/
import LoadSwarm.Proofs.Swarm.Clock
import LoadSwarm.Proofs.Swarm.Result

namespace LoadSwarm

namespace SwarmRun

variable {β : Type}

variable [Behavior β] {w : Surroundings β} {s s' s₀ : SwarmRun β} {settings : SwarmSettings}
  {latch : Latch} {start : Nat}

/-! ## Nothing new after the stop -/

theorem Change.final (hc : Change w s s') (hs : s.isStopping = true) :
    s'.made = s.made ∧ s'.requests = s.requests ∧ s'.users.length = s.users.length := by
  cases hc with
  | request i t path b user turn going | spawn i stage room going => rw [hs] at going; cases going
  | overflow | answerYield | answerWait | answerCrash | stop | fail | crash =>
    exact ⟨rfl, rfl, List.length_set⟩
  | _ => exact ⟨rfl, rfl, rfl⟩

/-- **Once the stop is triggered, no user is made and no request starts.** -/
theorem Leads.final (h : Leads w s s') (hs : s.isStopping = true) :
    s'.made = s.made ∧ s'.requests = s.requests ∧ s'.users.length = s.users.length := by
  refine h.induction
    (P := fun s' => s'.made = s.made ∧ s'.requests = s.requests ∧ s'.users.length = s.users.length)
    (fun s₁ s₂ hl ih hc => ?_) (fun _ _ _ ih => ih) ⟨rfl, rfl, rfl⟩
  obtain ⟨h1, h2, h3⟩ := hc.final (hl.isStopping hs)
  exact ⟨h1.trans ih.1, h2.trans ih.2.1, h3.trans ih.2.2⟩

/-- A user that has ended does not go on. -/
theorem Change.exitOf? (hc : Change w s s') {i : Nat} {e : UserExit} (h : s.exitOf? i = some e) :
    s'.exitOf? i = some e := by
  cases hc.end_cases with
  | same exits | hears _ _ exits => exact (exits i).trans h
  | ends j exit alive exits =>
    rw [exits, if_neg, h]
    rintro rfl
    rw [h] at alive; cases alive

theorem Leads.exitOf? (hl : Leads w s s') {i : Nat} {e : UserExit} (h : s.exitOf? i = some e) :
    s'.exitOf? i = some e :=
  hl.induction (P := fun s => s.exitOf? i = some e) (fun _ _ _ hs hc => hc.exitOf? hs)
    (fun _ _ _ hs => hs) h

/-- A run that has returned does not go on. -/
theorem Change.returned (hc : Change w s s') {time : Nat} {r : Except RunFailure StatsReport}
    (h : s.stage = .returned time r) : s'.stage = .returned time r := by
  cases hc with
  | spawn i stage | resumeSpawning i due stage | endJoining stage | report r stage
  | noReport o stage => rw [h] at stage; cases stage
  | endSpawning ready =>
    rcases ready with ⟨i, stage, -⟩ | ⟨i, due, stage, -⟩ <;> (rw [h] at stage; cases stage)
  | _ => exact h

theorem Leads.returned (hl : Leads w s s') {time : Nat} {r : Except RunFailure StatsReport}
    (h : s.stage = .returned time r) : s'.stage = .returned time r :=
  hl.induction (P := fun s => s.stage = .returned time r) (fun _ _ _ hs hc => hc.returned hs)
    (fun _ _ _ hs => hs) h

/-- The run returns at the present time. -/
theorem Change.returned_now (hc : Change w s s') (hr : s.stage.isReturned = false) {time : Nat}
    {r : Except RunFailure StatsReport} (h : s'.stage = .returned time r) : time = s.now := by
  rcases hc.return_cases h with hold | hret
  · rw [hold] at hr; cases hr
  · exact hret.now

/-! ## Turns after the stop -/

theorem iterate_of_stopping (hs : s.isStopping = true) (i : Nat) (t : UserTask β) :
    iterate w s i t = s.stopUser i t := by unfold iterate; rw [if_pos hs]

omit [Behavior β] in
/-- After the stop, no user waits. -/
theorem canResume_of_stopping (hs : s.isStopping = true) {t : UserTask β} (alive : t.exit? = none) :
    s.canResume t = true := by
  unfold canResume
  cases hp : t.phase with
  | ended exit => rw [UserTask.exit?_eq_some_iff.2 hp] at alive; cases alive
  | starting | yielding => rfl
  | requesting | waiting => simp [hs]

/-- A user that goes on after the stop follows it. -/
theorem resumeUser_of_stopping (hs : s.isStopping = true) (first : Bool) {i : Nat} {t : UserTask β}
    (user : s.users[i]? = some t) (alive : t.exit? = none) :
    ((resumeUser w first s i t).exitOf? i).isSome = true := by
  have stops (s' : SwarmRun β) (h : s'.users[i]? = some t) :
      ((s'.stopUser i t).exitOf? i).isSome = true := by
    have hend := exitOf?_endUser (s := s'.note (.userStopped i t.iterations)) h t
      (.stopped t.iterations) i
    unfold stopUser; rw [hend, if_pos rfl]; rfl
  unfold resumeUser
  split
  · rw [iterate_of_stopping (s := s.note _) hs]; exact stops _ user
  · rw [iterate_of_stopping hs]; exact stops _ user
  · rw [if_pos hs]; exact stops _ user
  · next due hp =>
    rw [iterate_of_stopping hs, hs, Turn.of_true]
    rcases decide (due ≤ s.now) && first with _ | _
    · exact stops _ user
    · exact stops _ user
  · next exit hp => rw [UserTask.exit?_eq_some_iff.2 hp] at alive; cases alive

/-- **After the stop, a user ends in its next turn.** -/
theorem poll_user_of_stopping (hs : s.isStopping = true) {i : Nat} (hi : i < s.users.length)
    (first : Nat → Bool) : ((poll w (.user i) first s).exitOf? i).isSome = true := by
  have user : s.users[i]? = some s.users[i] := List.getElem?_eq_getElem hi
  have keep {s₁ s₂ : SwarmRun β} (hl : Leads w s₁ s₂) (h : (s₁.exitOf? i).isSome = true) :
      (s₂.exitOf? i).isSome = true := by
    obtain ⟨e, he⟩ := Option.isSome_iff_exists.1 h
    rw [hl.exitOf? he]; rfl
  have hcs := poll_changes (w := w) (s := s) (.user i) first
  rcases halive : s.users[i].exit? with _ | e
  · -- the user is ready, and its first step is the end
    have hready : s.isReady (.user i) = true := by
      unfold isReady; dsimp only; rw [user]; exact canResume_of_stopping hs halive
    unfold poll; dsimp only; rw [if_pos hready, turnLength]
    unfold pollUser; rw [user]; dsimp only
    have hend := resumeUser_of_stopping (w := w) hs (first 127) user halive
    split
    · split_ifs
      · exact keep (pollUser_changes first i 127).leads hend
      · exact hend
    · exact hend
  · refine keep hcs.leads ?_
    rw [exitOf?_eq, user, Option.bind_some, halive]; rfl

/-- How many steps the run itself is from its return, beside the ends to hear of. -/
def stepsLeft : Stage → Nat
  | .pausing .. => 4
  | .spawning _ => 3
  | .joining => 2
  | .draining => 1
  | .returned .. => 0

omit [Behavior β] in
/-- With all users ended, the run itself does not wait after the stop. -/
theorem stageStep_of_stopping (hh : ∃ heard, Hears s.exitOf? s.unheard s.tally heard)
    (hs : s.isStopping = true) (all : s.AllEnded)
    (hr : s.stage.isReturned = false) (first : Bool) :
    ∃ s', stageStep w first s = some s' ∧
      stepsLeft s'.stage + s'.unheard.length < stepsLeft s.stage + s.unheard.length := by
  unfold stageStep
  cases hst : s.stage with
  | spawning i =>
    refine ⟨s.endSpawning, by simp [hs], ?_⟩
    simp [endSpawning, note, stepsLeft]
  | pausing i due =>
    have hspawn : stepsLeft s.endSpawning.stage + s.endSpawning.unheard.length <
        4 + s.unheard.length := by simp [endSpawning, note, stepsLeft]
    dsimp only
    rw [hs, Turn.of_true]
    rcases decide (due ≤ s.now) && first with _ | _
    · exact ⟨_, rfl, hspawn⟩
    · exact ⟨_, rfl, by simp [stepsLeft]⟩
  | joining =>
    have hjoin : stepsLeft s.endJoining.stage + s.endJoining.unheard.length <
        2 + s.unheard.length := by
      unfold endJoining; rw [trigger_eq]; simp [triggered, stepsLeft]
    rw [hs]
    dsimp only
    rw [Turn.of_true]
    rcases (!s.unheard.isEmpty || s.allHeard) && first with _ | _
    · exact ⟨_, rfl, hjoin⟩
    · rcases hun : s.unheard with _ | ⟨i, rest⟩
      · rw [hun] at hjoin
        exact ⟨_, rfl, hjoin⟩
      · refine ⟨_, rfl, ?_⟩
        rw [hear_eq]; simp [heardOf, hst, stepsLeft]
  | draining =>
    dsimp only
    rcases hun : s.unheard with _ | ⟨i, rest⟩
    · obtain ⟨heard, h⟩ := hh
      rw [hun] at h
      have hheard : s.allHeard = true :=
        decide_eq_true ((h.heard_eq_iff fun i => lt_of_exitOf?).2 all)
      rw [hheard]
      refine ⟨_, rfl, ?_⟩
      unfold finish
      dsimp only
      split <;> simp [note, stepsLeft, hun]
    · refine ⟨_, rfl, ?_⟩
      rw [hear_eq]; simp [heardOf, hst, stepsLeft]
  | returned time r => rw [hst] at hr; cases hr

/-- **After the stop, with all users ended, the run returns in its next turn.** -/
theorem stageWalk_of_stopping (first : Nat → Bool) (n : Nat) :
    ∀ {s : SwarmRun β}, Leads w (.begin w settings latch start) s → s.isStopping = true → s.AllEnded →
      stepsLeft s.stage + s.unheard.length ≤ n →
      (stageWalk w first n s).stage.isReturned = true := by
  induction n with
  | zero =>
    intro s _ _ _ hn
    unfold stageWalk
    cases hst : s.stage with
    | returned time r => rfl
    | spawning | pausing | joining | draining => simp [hst, stepsLeft] at hn
  | succ n ih =>
    intro s hl hs all hn
    unfold stageWalk
    by_cases hr : s.stage.isReturned = true
    · obtain ⟨time, r, hst⟩ := Stage.exists_of_isReturned hr
      have hnone : stageStep w (first n) s = none := by unfold stageStep; rw [hst]
      rw [hnone]; exact hr
    · obtain ⟨s', hstep, hlt⟩ :=
        stageStep_of_stopping (w := w) (leads_hears hl) hs all (by simpa using hr) (first n)
      rw [hstep]
      have hc := stageStep_change hstep
      have hl' := hl.tail (.change s' hc)
      refine ih hl' (hc.isStopping hs) (fun i hi => ?_) (by omega)
      rw [(hc.final hs).2.2] at hi
      obtain ⟨e, he⟩ := Option.isSome_iff_exists.1 (all i hi)
      rw [hc.exitOf? he]; rfl

/-- **After the stop, the run returns once every user and then the run itself had a turn.** -/
theorem returned_of_turns (hl : Leads w (.begin w settings latch start) s)
    (hs : s.isStopping = true) {turns : List Action}
    (hturns : ∀ i < s.users.length, ∃ first, Action.poll (.user i) first ∈ turns)
    (first : Nat → Bool) (after : List Action) :
    (run w s (turns ++ .poll .stage first :: after)).stage.isReturned = true := by
  have hl₁ := run_leads (w := w) s turns
  have hlen := (hl₁.final hs).2.2
  have all : (run w s turns).AllEnded := by
    intro i hi
    rw [hlen] at hi
    obtain ⟨f, hf⟩ := hturns i hi
    obtain ⟨as, bs, rfl⟩ := List.append_of_mem hf
    have hla := run_leads (w := w) s as
    have hend := poll_user_of_stopping (w := w) (hla.isStopping hs)
      (i := i) (by rw [(hla.final hs).2.2]; exact hi) f
    obtain ⟨e, he⟩ := Option.isSome_iff_exists.1 hend
    rw [run_append]
    have hkeep := (run_leads (w := w) (act w (run w s as) (.poll (.user i) f)) bs).exitOf? he
    exact Option.isSome_iff_exists.2 ⟨e, hkeep⟩
  have hret : (act w (run w s turns) (.poll .stage first)).stage.isReturned = true := by
    refine stageWalk_of_stopping first _ (hl.trans hl₁) (hl₁.isStopping hs) all ?_
    have hle : stepsLeft (run w s turns).stage ≤ 4 := by
      cases (run w s turns).stage <;> simp [stepsLeft]
    unfold stageSteps; omega
  obtain ⟨time, r, hst⟩ := Stage.exists_of_isReturned hret
  rw [run_append]
  have hkeep := (run_leads (w := w) (act w (run w s turns) (.poll .stage first)) after).returned hst
  exact (congrArg Stage.isReturned hkeep)

/-- **A stopped run that has not returned has a task that can go on.** -/
theorem not_idle (hl : Leads w (.begin w settings latch start) s) (hs : s.isStopping = true)
    (hr : s.stage.isReturned = false) : s.isIdle = false := by
  by_contra hidle
  simp only [isIdle, Bool.not_eq_false, Bool.and_eq_true, Bool.not_eq_true', List.all_eq_true]
    at hidle
  obtain ⟨⟨⟨hstage, -⟩, -⟩, husers⟩ := hidle
  -- the run itself can only wait for users to end, and none of them waits
  have all : s.AllEnded := by
    intro i hi
    have hno := husers _ (List.getElem_mem hi)
    rw [exitOf?_eq, List.getElem?_eq_getElem hi, Option.bind_some]
    rcases halive : s.users[i].exit? with _ | e
    · rw [canResume_of_stopping hs halive] at hno; cases hno
    · rfl
  unfold stageReady at hstage
  cases hst : s.stage with
  | spawning i => rw [hst] at hstage; cases hstage
  | pausing i due => rw [hst] at hstage; simp [hs] at hstage
  | joining => rw [hst] at hstage; simp [hs] at hstage
  | draining =>
    rw [hst] at hstage
    simp only [Bool.or_eq_false_iff, Bool.not_eq_false', List.isEmpty_iff] at hstage
    obtain ⟨heard, h⟩ := leads_hears hl
    rw [hstage.1] at h
    have hall : s.allHeard = true :=
      decide_eq_true ((h.heard_eq_iff fun i => lt_of_exitOf?).2 all)
    rw [hall] at hstage; exact nomatch hstage.2
  | returned time r => rw [hst] at hr; cases hr

/-! ## The time of the stop -/

/-- The actions that trigger the stop, and the time at which they do: none if it was triggered
    before the run began, or else those up to the action in which it is triggered. -/
inductive StopsAt (w : Surroundings β) (s₀ : SwarmRun β) : List Action → Nat → Prop
  | early (stopping : s₀.isStopping = true) : StopsAt w s₀ [] s₀.now
  | during (as : List Action) (a : Action) (going : (run w s₀ as).isStopping = false)
      (stopping : (run w s₀ (as ++ [a])).isStopping = true) :
      StopsAt w s₀ (as ++ [a]) (run w s₀ as).now

theorem StopsAt.stopping {before : List Action} {time : Nat} (h : StopsAt w s₀ before time) :
    (run w s₀ before).isStopping = true := by
  cases h with
  | early stopping => exact stopping
  | during as a going stopping => exact stopping

/-- Every run that is stopped has a time of its stop. -/
theorem exists_stopsAt {as : List Action} (h : (run w s₀ as).isStopping = true) :
    ∃ before after time, as = before ++ after ∧ StopsAt w s₀ before time := by
  induction as using List.reverseRecOn with
  | nil => exact ⟨[], [], _, rfl, .early h⟩
  | append_singleton as a ih =>
    by_cases hs : (run w s₀ as).isStopping = true
    · obtain ⟨before, after, time, rfl, hstop⟩ := ih hs
      exact ⟨before, after ++ [a], time, by simp, hstop⟩
    · exact ⟨as ++ [a], [], _, by simp, .during as a (by simpa using hs) h⟩

/-- The passing of time triggers nothing. -/
theorem changes_of_stopping {a : Action} (going : s.isStopping = false)
    (stopping : (act w s a).isStopping = true) : Changes w s (act w s a) := by
  rcases act_cases (w := w) (s := s) a with hcs | ⟨-, time, -, -, heq⟩
  · exact hcs
  · have hsame : (act w s a).isStopping = s.isStopping := by rw [heq]; rfl
    rw [hsame, going] at stopping; cases stopping

/-- No time passes in the action that triggers the stop. -/
theorem StopsAt.now_eq {before : List Action} {time : Nat} (h : StopsAt w s₀ before time) :
    (run w s₀ before).now = time := by
  cases h with
  | early => rfl
  | during as a going stopping =>
    rw [run_concat] at stopping ⊢
    exact (changes_of_stopping going stopping).now_eq

/-- The time of a run stands still, and is that of its return. -/
def StandsAt (time : Nat) (s : SwarmRun β) : Prop :=
  (s.stage.isReturned = false → s.now = time) ∧ ∀ t r, s.stage = .returned t r → t = time

omit [Behavior β] in
theorem StandsAt.of_not_returned (h : s.stage.isReturned = false) : StandsAt s.now s :=
  ⟨fun _ => rfl, fun _ _ hst => by rw [hst] at h; cases h⟩

theorem Change.standsAt {time : Nat} (hc : Change w s s') (h : StandsAt time s) :
    StandsAt time s' := by
  by_cases hr : s.stage.isReturned = true
  · obtain ⟨t, r, hst⟩ := Stage.exists_of_isReturned hr
    have hst' := hc.returned hst
    refine ⟨fun hno => (by rw [hst'] at hno; cases hno), fun t' r' h' => ?_⟩
    rw [hst'] at h'; cases h'
    exact h.2 t r hst
  · have hr' : s.stage.isReturned = false := by simpa using hr
    exact ⟨fun _ => hc.now_eq.trans (h.1 hr'),
      fun t r h' => (hc.returned_now hr' h').trans (h.1 hr')⟩

/-- **After the stop, the time stands still until the run has returned.** -/
theorem StopsAt.standsAt {before : List Action} {time : Nat}
    (h : StopsAt w (.begin w settings latch start) before time) (after : List Action) :
    StandsAt time (run w (.begin w settings latch start) (before ++ after)) := by
  have hstop := h.stopping
  have hl := run_leads (w := w) (.begin w settings latch start) before
  -- at the end of the action that triggers the stop
  have hfirst : StandsAt time (run w (.begin w settings latch start) before) := by
    cases h with
    | early stopping => exact .of_not_returned rfl
    | during as a going stopping =>
      rw [run_concat] at stopping ⊢
      have hnot : (run w (.begin w settings latch start) as).stage.isReturned = false := by
        by_contra hr
        rw [stopping_of_returned (run_leads (w := w) (.begin w settings latch start) as)
          (by simpa using hr)] at going
        cases going
      exact (changes_of_stopping going stopping).induction (fun _ _ _ hs hc => hc.standsAt hs)
        (StandsAt.of_not_returned hnot)
  rw [run_append]
  refine run_induction (P := fun s => StandsAt time s) (fun _ _ _ hs hc => hc.standsAt hs)
    (fun s₁ t hl₁ hidle _ _ hs => ?_) hfirst after
  have hr : s₁.stage.isReturned = true := by
    by_contra hr
    rw [not_idle (hl.trans hl₁) (hl₁.isStopping hstop) (by simpa using hr)] at hidle
    cases hidle
  exact ⟨fun hno => (by rw [hr] at hno; cases hno), hs.2⟩

/-! ## The run time -/

/-- The timer waits for its time, unless the run is stopped. -/
def WithinTime (due : Nat) (s : SwarmRun β) : Prop :=
  (s.stage.isReturned = false → s.now ≤ due ∧ (s.isStopping = true ∨ s.timer = some due)) ∧
    ∀ t r, s.stage = .returned t r → t ≤ due

theorem Change.withinTime {due : Nat} (hc : Change w s s') (h : WithinTime due s) :
    WithinTime due s' := by
  by_cases hr : s.stage.isReturned = true
  · obtain ⟨t, r, hst⟩ := Stage.exists_of_isReturned hr
    have hst' := hc.returned hst
    refine ⟨fun hno => (by rw [hst'] at hno; cases hno), fun t' r' h' => ?_⟩
    rw [hst'] at h'; cases h'
    exact h.2 t r hst
  · have hr' : s.stage.isReturned = false := by simpa using hr
    obtain ⟨hnow, htimer⟩ := h.1 hr'
    refine ⟨fun hno => ⟨hc.now_eq.trans_le hnow, ?_⟩,
      fun t r h' => (hc.returned_now hr' h').trans_le hnow⟩
    by_cases hs : s.isStopping = true
    · exact .inl (hc.isStopping hs)
    · have ht := htimer.resolve_left hs
      cases hc with
      | endJoining | timeout | trigger => exact .inl (Latch.isTriggered_trigger s.latch _)
      | dropTimer _ _ stopping => exact absurd stopping hs
      | report | noReport => cases hno
      | _ => exact .inr ht

/-- **A run with a run time returns within it.** -/
theorem run_withinTime {d : Duration} (hd : settings.runTime = some d) (as : List Action) :
    WithinTime (start + w.clock.sleep d) (run w (.begin w settings latch start) as) := by
  refine run_induction (P := fun s => WithinTime (start + w.clock.sleep d) s)
    (fun _ _ _ hs hc => hc.withinTime hs) (fun s₁ t hl hidle hle hdue hs => ?_) ?_ as
  · refine ⟨fun hr => ?_, hs.2⟩
    obtain ⟨hnow, htimer⟩ := hs.1 hr
    have hgoing : ¬s₁.isStopping = true := fun hstop => by
      rw [not_idle hl hstop hr] at hidle; cases hidle
    have ht := htimer.resolve_left hgoing
    exact ⟨hdue _ (by simp [dues, ht]) hnow, .inr ht⟩
  · refine ⟨fun _ => ⟨Nat.le_add_right _ _, .inr ?_⟩, fun t r hst => ?_⟩
    · simp [SwarmRun.begin, hd]
    · simp [SwarmRun.begin] at hst

/-! ## The stop -/

/-- **The stop of a run is prompt and final.** -/
structure PromptStop (w : Surroundings β) (s₀ : SwarmRun β) : Prop where
  /-- from the step on that triggers the stop, no user is made and no request starts, whatever the
      order and the pace of the tasks -/
  final : ∀ s s', Reaches w s₀ s → s.isStopping = true → Reaches w s s' →
    s'.made = s.made ∧ s'.requests = s.requests
  /-- until the run has returned, no time passes, and there is a task that can go on -/
  still : ∀ before time after, StopsAt w s₀ before time →
    (run w s₀ (before ++ after)).stage.isReturned = false →
    (run w s₀ (before ++ after)).now = time ∧ (run w s₀ (before ++ after)).isIdle = false
  /-- once every user and then the run itself had a turn, the run has returned -/
  returns : ∀ before time turns first after, StopsAt w s₀ before time →
    (∀ i < (run w s₀ before).users.length, ∃ f, Action.poll (.user i) f ∈ turns) →
    ∃ r, (run w s₀ (before ++ (turns ++ .poll .stage first :: after))).stage = .returned time r
  /-- it returns at the time of its stop -/
  instant : ∀ before time after t r, StopsAt w s₀ before time →
    (run w s₀ (before ++ after)).stage = .returned t r → t = time
  /-- a run that has returned was stopped -/
  stopped : ∀ actions t r, (run w s₀ actions).stage = .returned t r →
    ∃ before after, actions = before ++ after ∧ StopsAt w s₀ before t
  /-- it breaks down only over a sum that leaves its range -/
  result : ∀ actions t message, (run w s₀ actions).stage = .returned t (.error (.crashed message)) →
    ∃ o, (run w s₀ actions).stats.total = .error o
  runTime : ∀ d actions t r, s₀.settings.runTime = some d →
    (run w s₀ actions).stage = .returned t r → t ≤ s₀.start + d.ceilMillis

/-- **Every run stops promptly and finally**, whoever triggers the stop: a handle, the timer, a
    request or the run itself. -/
theorem begin_promptStop (w : Surroundings β) (settings : SwarmSettings) (latch : Latch)
    (start : Nat) : PromptStop w (.begin w settings latch start) where
  final s s' _ hs h := ⟨(h.leads.final hs).1, (h.leads.final hs).2.1⟩
  still before time after h hr := by
    refine ⟨(h.standsAt after).1 hr, not_idle (run_leads _ _) ?_ hr⟩
    rw [run_append]; exact (run_leads _ _).isStopping h.stopping
  returns before time turns first after h hturns := by
    have hret : (run w (.begin w settings latch start)
        (before ++ (turns ++ .poll .stage first :: after))).stage.isReturned = true := by
      rw [run_append]
      exact returned_of_turns (run_leads _ before) h.stopping hturns first after
    obtain ⟨t, r, hst⟩ := Stage.exists_of_isReturned hret
    obtain rfl := (h.standsAt _).2 t r hst
    exact ⟨r, hst⟩
  instant before time after t r h hst := (h.standsAt after).2 t r hst
  stopped actions t r hst := by
    obtain ⟨before, after, time, rfl, h⟩ :=
      exists_stopsAt (stopping_of_returned (run_leads _ actions) (by rw [hst]; rfl))
    obtain rfl := (h.standsAt after).2 t r hst
    exact ⟨before, after, rfl, h⟩
  result actions t message hst := by
    rcases leads_result (run_leads _ actions) t _ hst with ⟨elapsed, report, -, hr⟩ | ⟨o, ho, -⟩
    · unfold conclude at hr
      split at hr
      · cases hr
      · split_ifs at hr; cases hr
    · exact ⟨o, ho⟩
  runTime d actions t r hd hst :=
    ((run_withinTime hd actions).2 t r hst).trans
      (Nat.add_le_add_left (w.clock.sleep_le d) start)

end SwarmRun

end LoadSwarm
