/-
  Which of two things goes first that are both ready.

  * `pollTimer_first`, `pollStage_first`, `resumeUser_first`: it does not matter for the timer, for
    the run itself and for a user.  After the stop the run itself comes to the same end on all ways
    (`drained`); before the stop it has no decision to make (`Undivided`).
  * `pollProgress_first`: it matters for the lines of progress only after the stop.
  * `resolve choice actions`: actions with other decisions between things that are both ready.
  * `run_resolve`: two runs with the same actions are the same until the stop, and then but for lines
    of progress at its time.
  * `SameOutcome s s'`: two runs have done the same, up to what they have told of it.
  * `ChoiceFree w s₀`, `begin_choiceFree`: all decisions lead to the same outcome, and to the same
    lines but for those of progress at the time of the stop, of which there may be many
    (`many_lines_at_stop`).
-/
import LoadSwarm.Proofs.Swarm.Lines

namespace LoadSwarm

namespace SwarmRun

variable {β : Type} {w : Surroundings β} {s : SwarmRun β}

theorem trigger_of_stopping (hs : s.isStopping = true) (reason : String) : s.trigger reason = s := by
  unfold trigger Latch.announced?
  obtain ⟨r, hr⟩ := Option.isSome_iff_exists.1 hs
  rw [hr]

/-! ## The timer -/

/-- The timer stops a run that was stopped, or it is over: both are the same. -/
theorem pollTimer_first (first first' : Bool) (s : SwarmRun β) :
    pollTimer first s = pollTimer first' s := by
  unfold pollTimer
  rcases s.timer with _ | due
  · rfl
  · dsimp only
    rcases hs : s.isStopping with _ | _
    · rw [Turn.of_false, Turn.of_false]
    · rw [trigger_of_stopping hs, Turn.of_true, Turn.of_true]
      cases decide (due ≤ s.now) && first <;> cases decide (due ≤ s.now) && first' <;> rfl

/-! ## The run itself -/

/-- The run hears of ends, one after the other, and returns once it has heard of all. -/
def drain (w : Surroundings β) : List Nat → SwarmRun β → SwarmRun β
  | [], s => if s.allHeard then s.finish w else s
  | i :: rest, s => drain w rest (s.hear i rest)

/-- The run makes no more users and hears of the ends that it has not heard of. -/
def drained (w : Surroundings β) (s : SwarmRun β) : SwarmRun β :=
  drain w s.unheard { s with stage := .draining }

theorem isReturned_finish (w : Surroundings β) (s : SwarmRun β) :
    (s.finish w).stage.isReturned = true := by
  unfold finish
  dsimp only
  split <;> rfl

theorem hear_unheard (s : SwarmRun β) (i : Nat) (rest : List Nat) :
    (s.hear i rest).unheard = rest := by rw [hear_eq]; rfl

theorem hear_stage (s : SwarmRun β) (i : Nat) (rest : List Nat) :
    (s.hear i rest).stage = s.stage := by rw [hear_eq]; rfl

/-- **It does not matter where the run hears of an end.** -/
theorem drained_hear {i : Nat} {rest : List Nat} (h : s.unheard = i :: rest) :
    (s.hear i rest).drained w = s.drained w := by
  have hcomm : { s.hear i rest with stage := .draining } =
      ({ s with stage := .draining } : SwarmRun β).hear i rest := by rw [hear_eq, hear_eq]; rfl
  calc (s.hear i rest).drained w
      = drain w rest { s.hear i rest with stage := .draining } :=
        congrArg (drain w · { s.hear i rest with stage := .draining }) (s.hear_unheard i rest)
    _ = drain w (i :: rest) { s with stage := .draining } := congrArg (drain w rest) hcomm
    _ = s.drained w := congrArg (drain w · { s with stage := .draining }) h.symm

theorem drained_of_draining (h : s.stage = .draining) : s.drained w = drain w s.unheard s := by
  have hself : { s with stage := .draining } = s := by rw [← h]
  exact congrArg (drain w s.unheard) hself

theorem stageWalk_of_returned (first : Nat → Bool) (n : Nat) (hr : s.stage.isReturned = true) :
    stageWalk w first n s = s := by
  obtain ⟨time, r, hst⟩ := Stage.exists_of_isReturned hr
  cases n with
  | zero => rfl
  | succ n =>
    unfold stageWalk stageStep
    rw [hst]

theorem stageWalk_of_draining (first : Nat → Bool) (n : Nat) {s : SwarmRun β}
    (hst : s.stage = .draining) (hn : s.unheard.length < n) :
    stageWalk w first n s = s.drained w := by
  induction n generalizing s with
  | zero => exact absurd hn (Nat.not_lt_zero _)
  | succ n ih =>
    unfold stageWalk stageStep
    rw [hst]
    dsimp only
    rcases hun : s.unheard with _ | ⟨i, rest⟩
    · rw [drained_of_draining hst, hun]
      unfold drain
      dsimp only
      split_ifs
      · exact stageWalk_of_returned first n (s.isReturned_finish w)
      · rfl
    · dsimp only
      rw [ih (by rw [hear_stage, hst]) (by rw [hear_unheard]; simpa [hun] using hn),
        drained_hear hun]

theorem stageWalk_of_joining (first : Nat → Bool) (n : Nat) {s : SwarmRun β}
    (hs : s.isStopping = true) (hst : s.stage = .joining) (hn : s.unheard.length + 1 < n) :
    stageWalk w first n s = s.drained w := by
  induction n generalizing s with
  | zero => exact absurd hn (Nat.not_lt_zero _)
  | succ n ih =>
    have hjoin : stageWalk w first n s.endJoining = s.drained w := by
      unfold endJoining
      rw [trigger_of_stopping hs]
      exact stageWalk_of_draining first n rfl (by dsimp only; omega)
    unfold stageWalk stageStep
    rw [hst]
    dsimp only
    rw [hs, Turn.of_true]
    rcases (!s.unheard.isEmpty || s.allHeard) && first n with _ | _
    · exact hjoin
    · rcases hun : s.unheard with _ | ⟨i, rest⟩
      · exact hjoin
      · dsimp only
        rw [ih (by rw [hear_eq]; exact hs) (by rw [hear_stage, hst])
          (by rw [hear_unheard]; simpa [hun] using hn), drained_hear hun]

theorem stageWalk_of_spawning (first : Nat → Bool) {n i : Nat} (hs : s.isStopping = true)
    (hst : s.stage = .spawning i) (hn : s.unheard.length + 2 < n) :
    stageWalk w first n s = s.endSpawning.drained w := by
  cases n with
  | zero => exact absurd hn (Nat.not_lt_zero _)
  | succ n =>
    unfold stageWalk stageStep
    rw [hst]
    simp only [hs, Bool.not_true, Bool.and_false, Bool.false_eq_true, if_false]
    exact stageWalk_of_joining first n hs rfl (by dsimp only [endSpawning, note]; omega)

theorem stageWalk_of_pausing (first : Nat → Bool) {n i due : Nat} (hs : s.isStopping = true)
    (hst : s.stage = .pausing i due) (hn : s.unheard.length + 3 < n) :
    stageWalk w first n s = s.endSpawning.drained w := by
  cases n with
  | zero => exact absurd hn (Nat.not_lt_zero _)
  | succ n =>
    unfold stageWalk stageStep
    rw [hst]
    dsimp only
    rw [hs, Turn.of_true]
    rcases decide (due ≤ s.now) && first n with _ | _
    · exact stageWalk_of_joining first n hs rfl (by dsimp only [endSpawning, note]; omega)
    · -- one more turn of the loop makes no user
      exact stageWalk_of_spawning first (s := { s with stage := .spawning i }) hs rfl
        (by dsimp only; omega)

/-- **After the stop, all ways of the run itself come to the same end.** -/
theorem pollStage_of_stopping (first first' : Nat → Bool) (hs : s.isStopping = true) :
    pollStage w first s = pollStage w first' s := by
  unfold pollStage
  have hsteps : s.unheard.length + 3 < s.stageSteps := by unfold stageSteps; omega
  cases hst : s.stage with
  | spawning i =>
    rw [stageWalk_of_spawning first hs hst (by omega),
      stageWalk_of_spawning first' hs hst (by omega)]
  | pausing i due =>
    rw [stageWalk_of_pausing first hs hst hsteps, stageWalk_of_pausing first' hs hst hsteps]
  | joining =>
    rw [stageWalk_of_joining first _ hs hst (by omega),
      stageWalk_of_joining first' _ hs hst (by omega)]
  | draining =>
    rw [stageWalk_of_draining first _ hst (by omega), stageWalk_of_draining first' _ hst (by omega)]
  | returned time r =>
    have hr : s.stage.isReturned = true := by rw [hst]; rfl
    rw [stageWalk_of_returned first _ hr, stageWalk_of_returned first' _ hr]

/-- There is no decision to make for the run itself: the stop was not triggered, or it is not
    awaited, since the run only hears of the ends that are left. -/
def Undivided (s : SwarmRun β) : Prop :=
  s.isStopping = false ∨ s.stage = .draining ∨ s.stage.isReturned = true

theorem stageStep_first (first first' : Bool) (h : s.Undivided) :
    stageStep w first s = stageStep w first' s := by
  unfold stageStep
  rcases h with hs | hst | hr
  · rw [hs]; simp only [Turn.of_false]
  · rw [hst]
  · obtain ⟨time, r, hst⟩ := Stage.exists_of_isReturned hr
    rw [hst]

theorem Undivided.hear (h : s.Undivided) (i : Nat) (rest : List Nat) : (s.hear i rest).Undivided := by
  unfold Undivided
  rw [hear_stage]
  have hs : (s.hear i rest).isStopping = s.isStopping := by rw [hear_eq]; rfl
  rw [hs]
  exact h

/-- **There is none after a step either.** -/
theorem Undivided.step {s' : SwarmRun β} {first : Bool} (h : s.Undivided)
    (hstep : stageStep w first s = some s') : s'.Undivided := by
  unfold stageStep at hstep
  cases hst : s.stage with
  | spawning i =>
    have hs : s.isStopping = false := by simpa [Undivided, hst, Stage.isReturned] using h
    rw [hst] at hstep
    dsimp only at hstep
    split_ifs at hstep <;> cases hstep <;> exact .inl hs
  | pausing i due =>
    have hs : s.isStopping = false := by simpa [Undivided, hst, Stage.isReturned] using h
    rw [hst, hs] at hstep
    simp only [Turn.of_false] at hstep
    split_ifs at hstep
    cases hstep; exact .inl hs
  | joining =>
    have hs : s.isStopping = false := by simpa [Undivided, hst, Stage.isReturned] using h
    rw [hst, hs] at hstep
    simp only [Turn.of_false] at hstep
    split_ifs at hstep
    rcases hun : s.unheard with _ | ⟨i, rest⟩
    · rw [hun] at hstep; cases hstep; exact .inr (.inl rfl)
    · rw [hun] at hstep; cases hstep; exact h.hear i rest
  | draining =>
    rw [hst] at hstep
    rcases hun : s.unheard with _ | ⟨i, rest⟩
    · rw [hun] at hstep
      dsimp only at hstep
      split_ifs at hstep
      cases hstep
      exact .inr (.inr (s.isReturned_finish w))
    · rw [hun] at hstep; cases hstep; exact h.hear i rest
  | returned time r => rw [hst] at hstep; cases hstep

theorem stageWalk_first (first first' : Nat → Bool) (n : Nat) {s : SwarmRun β} (h : s.Undivided) :
    stageWalk w first n s = stageWalk w first' n s := by
  induction n generalizing s with
  | zero => rfl
  | succ n ih =>
    unfold stageWalk
    rw [stageStep_first (first n) (first' n) h]
    rcases hstep : stageStep w (first' n) s with _ | s'
    · rfl
    · exact ih (h.step hstep)

/-- **It does not matter to the run itself what goes first.** -/
theorem pollStage_first (first first' : Nat → Bool) (s : SwarmRun β) :
    pollStage w first s = pollStage w first' s := by
  rcases hs : s.isStopping with _ | _
  · exact stageWalk_first first first' _ (.inl hs)
  · exact pollStage_of_stopping first first' hs

/-! ## Lines of progress -/

/-- **Before the stop, it does not matter to the lines of progress what goes first.** -/
theorem pollProgress_first (first first' : Nat → Bool) (n : Nat) {s : SwarmRun β}
    (hs : s.isStopping = false) : pollProgress w first n s = pollProgress w first' n s := by
  induction n generalizing s with
  | zero => rfl
  | succ n ih =>
    unfold pollProgress progressStep
    rw [hs]
    simp only [Turn.of_false]
    rcases s.progress with _ | m
    · rfl
    rcases s.settings.statsInterval with _ | interval
    · rfl
    dsimp only
    split_ifs
    · rcases s.snapshot w with o | r
      · exact ih hs
      · exact ih hs
    · rfl

variable [Behavior β]

/-! ## Users -/

/-- **It does not matter to a user what goes first**: the iteration after its wait does not begin
    after the stop. -/
theorem resumeUser_first (first first' : Bool) (s : SwarmRun β) (i : Nat) (t : UserTask β) :
    resumeUser w first s i t = resumeUser w first' s i t := by
  unfold resumeUser
  cases t.phase with
  | waiting due =>
    dsimp only
    rcases hs : s.isStopping with _ | _
    · rw [Turn.of_false, Turn.of_false]
    · rw [iterate_of_stopping hs, Turn.of_true, Turn.of_true]
      cases decide (due ≤ s.now) && first <;> cases decide (due ≤ s.now) && first' <;> rfl
  | starting | yielding | requesting | ended => rfl

theorem pollUser_first (first first' : Nat → Bool) (i n : Nat) (s : SwarmRun β) :
    pollUser w first i n s = pollUser w first' i n s := by
  induction n generalizing s with
  | zero => rfl
  | succ n ih =>
    unfold pollUser
    rcases s.users[i]? with _ | t
    · rfl
    · simp only [resumeUser_first (first n) (first' n), ih]

/-- **It matters only to lines of progress what goes first.** -/
theorem poll_first {task : TaskName} (other : task ≠ .progress) (first first' : Nat → Bool)
    (s : SwarmRun β) : poll w task first s = poll w task first' s := by
  cases task with
  | stage => exact pollStage_first first first' s
  | timer => exact pollTimer_first (first 0) (first' 0) s
  | progress => exact absurd rfl other
  | user i =>
    unfold poll
    dsimp only
    rw [pollUser_first first first']

end SwarmRun

/-! ## Decisions -/

/-- The same action with other decisions. -/
def Action.deciding (first : Nat → Bool) : Action → Action
  | poll task _ => poll task first
  | trigger reason => trigger reason
  | advance time => advance time

/-- The same actions in the same order, with the decisions that are made in each of them. -/
def resolve (choice : Nat → Nat → Bool) (actions : List Action) : List Action :=
  actions.mapIdx fun k a => a.deciding (choice k)

theorem resolve_concat (choice : Nat → Nat → Bool) (as : List Action) (a : Action) :
    resolve choice (as ++ [a]) = resolve choice as ++ [a.deciding (choice as.length)] := by
  unfold resolve; rw [List.mapIdx_concat]

namespace SwarmRun

variable {β : Type} [Behavior β] {w : Surroundings β} {s s' : SwarmRun β} {T : Nat}
  {settings : SwarmSettings} {latch : Latch} {start : Nat}

/-- **Before the stop, decisions do not matter.** -/
theorem act_first (hs : s.isStopping = false) (a : Action) (first first' : Nat → Bool) :
    act w s (a.deciding first) = act w s (a.deciding first') := by
  cases a with
  | poll task _ =>
    by_cases htask : task = .progress
    · subst htask; exact pollProgress_first first first' _ hs
    · exact poll_first htask first first' s
  | trigger | advance => rfl

/-- **After the stop, decisions do not matter** but for lines of progress at its time. -/
theorem act_quiet (hl : Leads w (.begin w settings latch start) s)
    (hl' : Leads w (.begin w settings latch start) s') (hs : s.isStopping = true)
    (ht : StandsAt T s) (h : s.quiet T = s'.quiet T) (a : Action) (first first' : Nat → Bool) :
    (act w s (a.deciding first)).quiet T = (act w s' (a.deciding first')).quiet T := by
  have hstage : s.stage = s'.stage := by simpa using congrArg SwarmRun.stage h
  have hs' : s'.isStopping = true := by simpa [hs] using (congrArg SwarmRun.isStopping h).symm
  have ht' : StandsAt T s' := by
    have hnow : s.now = s'.now := by simpa using congrArg SwarmRun.now h
    unfold StandsAt; rw [← hstage, ← hnow]; exact ht
  cases a with
  | poll task _ =>
    by_cases htask : task = .progress
    · subst htask
      calc (pollProgress w first turnLength s).quiet T
          = s.quiet T := pollProgress_quiet first _ (ht.now_or_progress hl)
        _ = s'.quiet T := h
        _ = (pollProgress w first' turnLength s').quiet T :=
          (pollProgress_quiet first' _ (ht'.now_or_progress hl')).symm
    · calc (poll w task first s).quiet T
          = poll w task first (s.quiet T) := (poll_quiet htask first s).symm
        _ = poll w task first' (s'.quiet T) := by rw [h, poll_first htask first first']
        _ = (poll w task first' s').quiet T := poll_quiet htask first' s'
  | trigger reason =>
    calc (s.trigger reason).quiet T
        = (s.quiet T).trigger reason := (trigger_quiet s reason).symm
      _ = (s'.quiet T).trigger reason := by rw [h]
      _ = (s'.trigger reason).quiet T := trigger_quiet s' reason
  | advance time =>
    rcases hr : s.stage.isReturned with _ | _
    · -- no time passes
      have stay {s : SwarmRun β} (hl : Leads w (.begin w settings latch start) s)
          (hs : s.isStopping = true) (hr : s.stage.isReturned = false) : s.advance time = s := by
        unfold advance; rw [not_idle hl hs hr, if_neg Bool.false_ne_true]
      have hr' : s'.stage.isReturned = false := hstage ▸ hr
      show (s.advance time).quiet T = (s'.advance time).quiet T
      rw [stay hl hs hr, stay hl' hs' hr', h]
    · have hr' : s'.stage.isReturned = true := hstage ▸ hr
      calc (s.advance time).quiet T
          = (s.quiet T).advance time := (advance_quiet (progress_of_returned hl hr) time).symm
        _ = (s'.quiet T).advance time := by rw [h]
        _ = (s'.advance time).quiet T := advance_quiet (progress_of_returned hl' hr') time

/-- **Until the stop, two runs with the same actions are the same, whatever the decisions in them**;
    from then on they are the same but for lines of progress at the time of the stop. -/
theorem run_resolve (w : Surroundings β) (settings : SwarmSettings) (latch : Latch) (start : Nat)
    (choice choice' : Nat → Nat → Bool) (as : List Action) :
    let s₀ : SwarmRun β := .begin w settings latch start
    let s := run w s₀ (resolve choice as)
    let s' := run w s₀ (resolve choice' as)
    s.isStopping = false ∧ s = s' ∨
      s.isStopping = true ∧ ∃ before after T, resolve choice as = before ++ after ∧
        StopsAt w s₀ before T ∧ s.quiet T = s'.quiet T := by
  intro s₀
  induction as using List.reverseRecOn with
  | nil =>
    rcases hs : s₀.isStopping with _ | _
    · exact .inl ⟨hs, rfl⟩
    · exact .inr ⟨hs, [], [], s₀.now, rfl, .early hs, rfl⟩
  | append_singleton as a ih =>
    have hl := run_leads (w := w) s₀ (resolve choice as)
    have hl' := run_leads (w := w) s₀ (resolve choice' as)
    have hlast := run_leads (w := w) (run w s₀ (resolve choice as)) [a.deciding (choice as.length)]
    rw [resolve_concat, resolve_concat, run_concat, run_concat]
    rcases ih with ⟨hs, heq⟩ | ⟨hs, before, after, T, hsplit, hstop, hquiet⟩
    · rw [← heq, act_first hs a (choice' as.length) (choice as.length)]
      rcases hs' : (act w (run w s₀ (resolve choice as))
        (a.deciding (choice as.length))).isStopping with _ | _
      · exact .inl ⟨hs', rfl⟩
      · rw [← run_concat] at hs'
        obtain ⟨before, after, T, hsplit, hstop⟩ := exists_stopsAt hs'
        rw [run_concat] at hs'
        exact .inr ⟨hs', before, after, T, hsplit, hstop, rfl⟩
    · have ht : StandsAt T (run w s₀ (resolve choice as)) := hsplit ▸ hstop.standsAt after
      refine .inr ⟨hlast.isStopping hs, before, after ++ [a.deciding (choice as.length)], T, ?_,
        hstop, act_quiet hl hl' hs ht hquiet a _ _⟩
      rw [hsplit, List.append_assoc]

/-! ## The outcome -/

/-- **Two runs have done the same**, up to what they have told of it. -/
structure SameOutcome (s s' : SwarmRun β) : Prop where
  now : s'.now = s.now
  /-- the same users were made at the same times -/
  made : s'.made = s.made
  /-- and they are at the same points -/
  users : s'.users = s.users
  /-- the same requests were started at the same times -/
  requests : s'.requests = s.requests
  /-- the same iterations were finished -/
  iterations : s'.iterations = s.iterations
  /-- the same answers were recorded -/
  stats : s'.stats = s.stats
  /-- the same was heard of ended users -/
  tally : s'.tally = s.tally
  /-- the run itself is at the same point, or it has returned the same result at the same time -/
  stage : s'.stage = s.stage

omit [Behavior β] in
theorem SameOutcome.of_quiet (h : s.quiet T = s'.quiet T) : SameOutcome s s' where
  now := (congrArg SwarmRun.now h).symm
  made := (congrArg SwarmRun.made h).symm
  users := (congrArg SwarmRun.users h).symm
  requests := (congrArg SwarmRun.requests h).symm
  iterations := (congrArg SwarmRun.iterations h).symm
  stats := (congrArg SwarmRun.stats h).symm
  tally := (congrArg SwarmRun.tally h).symm
  stage := (congrArg SwarmRun.stage h).symm

/-- **Nothing depends on decisions between things that are both ready**, for runs with the same
    actions. -/
structure ChoiceFree (w : Surroundings β) (s₀ : SwarmRun β) : Prop where
  outcome : ∀ actions choice choice',
    SameOutcome (run w s₀ (resolve choice actions)) (run w s₀ (resolve choice' actions))
  /-- until the stop, the same events happen -/
  going : ∀ actions choice choice', (run w s₀ (resolve choice actions)).isStopping = false →
    (run w s₀ (resolve choice' actions)).events = (run w s₀ (resolve choice actions)).events
  /-- and from then on too, but for lines of progress at the time of the stop -/
  stopping : ∀ actions choice choice', (run w s₀ (resolve choice actions)).isStopping = true →
    ∃ before after time, resolve choice actions = before ++ after ∧ StopsAt w s₀ before time ∧
      linesBut time (run w s₀ (resolve choice' actions)).events =
        linesBut time (run w s₀ (resolve choice actions)).events
  /-- of which there is one at most, if there is a millisecond or more between two of them, and
      the clock keeps its ticks -/
  single : (∀ interval, s₀.settings.statsInterval = some interval →
      nanosPerMilli ≤ interval.nanos ∧ ∀ n, s₀.clock.KeepsTick interval n) →
    ∀ actions time, (lineTimes (run w s₀ actions).events).count time ≤ 1

/-- **The outcome of a run does not depend on which of two things goes first that are both ready**,
    and neither does what it tells, but for lines of progress at the time of the stop. -/
theorem begin_choiceFree (w : Surroundings β) (settings : SwarmSettings) (latch : Latch)
    (start : Nat) : ChoiceFree w (.begin w settings latch start) where
  outcome actions choice choice' := by
    rcases run_resolve w settings latch start choice choice' actions with
      ⟨-, heq⟩ | ⟨-, _, _, T, -, -, hquiet⟩
    · exact .of_quiet (congrArg (quiet 0) heq)
    · exact .of_quiet hquiet
  going actions choice choice' hs := by
    rcases run_resolve w settings latch start choice choice' actions with ⟨-, heq⟩ | ⟨hs', -⟩
    · rw [heq]
    · rw [hs] at hs'; cases hs'
  stopping actions choice choice' hs := by
    rcases run_resolve w settings latch start choice choice' actions with
      ⟨hs', -⟩ | ⟨-, before, after, T, hsplit, hstop, hquiet⟩
    · rw [hs] at hs'; cases hs'
    · exact ⟨before, after, T, hsplit, hstop, (congrArg SwarmRun.events hquiet).symm⟩
  single apart actions time := run_count_line_le_one apart latch start actions time

/-- A user that waits for an answer. -/
def slowAnswer : Surroundings (User Script) where
  make _ := ⟨⟨["a"]⟩, ⟨[some 0], 0⟩⟩
  client _ _ := { outcome := .ok ⟨200, 5⟩, latency := 20000 }

/-- The stop comes from outside, at the end of the first millisecond. -/
def stoppedAfterMillisecond : List Action :=
  [.poll .stage fun _ => true, .poll (.user 0) fun _ => true, .advance 1, .trigger "interrupted",
    .poll .progress fun _ => true]

/-- **Decisions may be about many lines of progress at the time of the stop**, with less than a
    millisecond between them: here there are none, or as many as fit into a turn. -/
theorem many_lines_at_stop :
    ¬∀ (w : Surroundings (User Script)) (settings : SwarmSettings) (actions : List Action)
      (choice choice' : Nat → Nat → Bool) (before after : List Action) (time : Nat),
      settings.validate = .ok () → resolve choice actions = before ++ after →
      StopsAt w (.begin w settings {} 0) before time →
      (lineTimes (run w (.begin w settings {} 0) (resolve choice' actions)).events).count time ≤
        (lineTimes (run w (.begin w settings {} 0) (resolve choice actions)).events).count time + 1 := by
  intro hall
  let microsecond : Duration := ⟨1000, by decide⟩
  let settings : SwarmSettings := { statsInterval := some microsecond }
  let s₀ : SwarmRun (User Script) := .begin slowAnswer settings {} 0
  let lines (first : Bool) : Nat :=
    (lineTimes (run slowAnswer s₀ (resolve (fun _ _ => first) stoppedAfterMillisecond)).events).count 1
  let front : List Action :=
    [.poll .stage fun _ => false, .poll (.user 0) fun _ => false, .advance 1]
  have hsplit : resolve (fun _ _ => false) stoppedAfterMillisecond =
      (front ++ [.trigger "interrupted"]) ++ [.poll .progress fun _ => false] := by
    simp [resolve, stoppedAfterMillisecond, Action.deciding, front]
  have hstop : StopsAt slowAnswer s₀ (front ++ [.trigger "interrupted"]) _ :=
    .during front (.trigger "interrupted") (by decide +kernel) (by decide +kernel)
  have hnow : (run slowAnswer s₀ front).now = 1 := by decide +kernel
  have hfirst : lines true = turnLength := by decide +kernel
  have hlast : lines false = 0 := by decide +kernel
  have hle : lines true ≤ lines false + 1 :=
    hall slowAnswer settings stoppedAfterMillisecond (fun _ _ => false) (fun _ _ => true) _ _ 1
      (by decide +kernel) hsplit (hnow ▸ hstop)
  rw [hfirst, hlast] at hle
  exact absurd hle (by decide)

/-- The stop comes by the timer, at the time of a line of progress. -/
def stoppedAtLine : List Action :=
  [.poll .stage fun _ => true, .poll (.user 0) fun _ => true, .advance 10000,
    .poll .timer fun _ => true, .poll .progress fun _ => true, .poll (.user 0) fun _ => true,
    .poll .stage fun _ => true]

example :
    let lines (first : Bool) := lineTimes
      (run slowAnswer (.begin slowAnswer { runTime := some (.ofSeconds 10) } {} 0)
        (resolve (fun _ _ => first) stoppedAtLine)).events
    lines true = [10000] ∧ lines false = [] := by decide +kernel

end SwarmRun

end LoadSwarm
