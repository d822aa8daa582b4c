/-
  The lines of progress of a run.

  * `linesBut T events`, `quiet T s`: events, and a run, without the lines of progress at a time.
  * `resumeUser_quiet`, `stageStep_quiet`, `pollTimer_quiet`: no other task looks at the lines of
    progress, so each does the same to a run without them.
  * `pollProgress_quiet`: once the stop is triggered, the lines of progress change nothing else.
  * `Punctual interval s`: every line of progress was logged when it was due.
  * `run_punctual`: so it is in every run; `run_count_line_le_one`: no two lines have the same
    time with a millisecond or more between them.
-/
import LoadSwarm.Proofs.Swarm.Stop

namespace LoadSwarm

/-! ## Ticks of the clock -/

/-- Ticks with a millisecond or more between them have times of their own. -/
theorem Clock.tick_strictMono {clock : Clock} {d : Duration} (keeps : ∀ n, clock.KeepsTick d n)
    (apart : nanosPerMilli ≤ d.nanos) : StrictMono (clock.tick d) := by
  refine strictMono_nat_of_lt_succ fun n => ?_
  rw [keeps n, keeps (n + 1), Nat.add_mul, Nat.one_mul]
  unfold nanosPerMilli at apart ⊢
  omega

/-! ## Lines among events -/

/-- The time of an event that is a line of progress. -/
def lineTime? (e : Nat × SwarmEvent) : Option Nat :=
  match e.2 with
  | .progress _ => some e.1
  | _ => none

/-- Events without the lines of progress at a time. -/
def linesBut (time : Nat) (events : List (Nat × SwarmEvent)) : List (Nat × SwarmEvent) :=
  events.filter fun e => lineTime? e ≠ some time

/-- The times of the lines of progress. -/
def lineTimes (events : List (Nat × SwarmEvent)) : List Nat := events.filterMap lineTime?

namespace SwarmRun

variable {β : Type} {w : Surroundings β} {T : Nat}

/-- A run without its lines of progress at a time, and without those to come. -/
def quiet (T : Nat) (s : SwarmRun β) : SwarmRun β :=
  { s with progress := none, events := linesBut T s.events }

section
variable (s : SwarmRun β) (T : Nat)

@[simp] theorem quiet_now : (s.quiet T).now = s.now := rfl
@[simp] theorem quiet_settings : (s.quiet T).settings = s.settings := rfl
@[simp] theorem quiet_latch : (s.quiet T).latch = s.latch := rfl
@[simp] theorem quiet_isStopping : (s.quiet T).isStopping = s.isStopping := rfl
@[simp] theorem quiet_stage : (s.quiet T).stage = s.stage := rfl
@[simp] theorem quiet_timer : (s.quiet T).timer = s.timer := rfl
@[simp] theorem quiet_users : (s.quiet T).users = s.users := rfl
@[simp] theorem quiet_unheard : (s.quiet T).unheard = s.unheard := rfl
@[simp] theorem quiet_allHeard : (s.quiet T).allHeard = s.allHeard := rfl
@[simp] theorem quiet_exitOf? (i : Nat) : (s.quiet T).exitOf? i = s.exitOf? i := rfl
@[simp] theorem quiet_stats : (s.quiet T).stats = s.stats := rfl
@[simp] theorem quiet_snapshot : (s.quiet T).snapshot w = s.snapshot w := rfl
@[simp] theorem quiet_waits : (s.quiet T).waits = s.waits := rfl
@[simp] theorem quiet_requests : (s.quiet T).requests = s.requests := rfl

end

/-! ## Tasks that do not look at lines of progress -/

theorem trigger_quiet (s : SwarmRun β) (reason : String) :
    (s.quiet T).trigger reason = (s.trigger reason).quiet T := by
  unfold trigger
  rw [quiet_latch]
  rcases s.latch.announced? reason with _ | r <;> rfl

theorem finishRequest_quiet (s : SwarmRun β) (i : Nat) (t : UserTask β) (number : Nat)
    (path : String) (since : Nat) (outcome : Outcome) :
    finishRequest w (s.quiet T) i t number path since outcome =
      (finishRequest w s i t number path since outcome).quiet T := by
  unfold finishRequest
  rw [quiet_stats, quiet_now]
  rcases s.stats.record path (Duration.ofMillis (s.now - since)) outcome with ⟨stats, _ | o⟩
  · simp only [startWait, quiet_settings, quiet_waits]
    rcases s.settings.waitTime.next (w.word s.waits) with e | _ | d <;> rfl
  · rfl

theorem asked_quiet (s : SwarmRun β) (i : Nat) (path : String) :
    (s.quiet T).asked w i path = (s.asked w i path).quiet T := by
  unfold asked
  rw [quiet_requests]
  rcases (w.client s.requests.length path).trigger with _ | reason
  · rfl
  · dsimp only
    rw [← trigger_eq, ← trigger_eq, ← trigger_quiet]; rfl

theorem startRequest_quiet (s : SwarmRun β) (i : Nat) (t : UserTask β) (path : String) :
    startRequest w (s.quiet T) i t path = (startRequest w s i t path).quiet T := by
  rw [startRequest_eq, startRequest_eq, asked_quiet, quiet_requests, quiet_now]
  split_ifs
  · exact finishRequest_quiet _ i t _ path _ _
  · rfl

variable [Behavior β]

theorem iterate_quiet (s : SwarmRun β) (i : Nat) (t : UserTask β) :
    iterate w (s.quiet T) i t = (iterate w s i t).quiet T := by
  unfold iterate
  rw [quiet_isStopping]
  split_ifs
  · rfl
  · rcases Behavior.next t.behavior with ⟨path | e | message, b⟩
    · exact startRequest_quiet s i { t with behavior := b } path
    · rfl
    · rfl

/-- **A user does not look at lines of progress.** -/
theorem resumeUser_quiet (first : Bool) (s : SwarmRun β) (i : Nat) (t : UserTask β) :
    resumeUser w first (s.quiet T) i t = (resumeUser w first s i t).quiet T := by
  unfold resumeUser
  rw [quiet_isStopping, quiet_now]
  cases t.phase with
  | starting => exact iterate_quiet (s.note (.userStarted i (Behavior.name β))) i t
  | yielding => exact iterate_quiet s i t
  | requesting number path since due outcome =>
    dsimp only
    split_ifs
    · rfl
    · exact finishRequest_quiet s i t number path since outcome
    · rfl
  | waiting due =>
    dsimp only
    rcases Turn.of first (decide (due ≤ s.now)) s.isStopping with _ | _ | _
    · rfl
    · rfl
    · exact iterate_quiet s i t
  | ended exit => rfl

theorem pollUser_quiet (first : Nat → Bool) (i n : Nat) (s : SwarmRun β) :
    pollUser w first i n (s.quiet T) = (pollUser w first i n s).quiet T := by
  induction n generalizing s with
  | zero => rfl
  | succ n ih =>
    unfold pollUser
    rw [quiet_users]
    rcases s.users[i]? with _ | t
    · rfl
    dsimp only
    rw [resumeUser_quiet, quiet_users]
    rcases (resumeUser w (first n) s i t).users[i]? with _ | t'
    · rfl
    have hkeeps : ((resumeUser w (first n) s i t).quiet T).keepsTurn t' =
        (resumeUser w (first n) s i t).keepsTurn t' := rfl
    dsimp only
    rw [hkeeps]
    split_ifs
    · exact ih _
    · rfl

omit [Behavior β] in
theorem hear_quiet (s : SwarmRun β) (i : Nat) (rest : List Nat) :
    (s.quiet T).hear i rest = (s.hear i rest).quiet T := by
  rw [hear_eq, hear_eq]
  unfold heardOf
  rw [quiet_exitOf?]
  rcases s.exitOf? i with _ | _ | _ | _ <;> rfl

omit [Behavior β] in
theorem endJoining_quiet (s : SwarmRun β) : (s.quiet T).endJoining = s.endJoining.quiet T := by
  unfold endJoining; rw [trigger_quiet]; rfl

omit [Behavior β] in
theorem finish_quiet (s : SwarmRun β) : (s.quiet T).finish w = (s.finish w).quiet T := by
  unfold finish
  have hsnap (s : SwarmRun β) :
      ({ s with timer := none, progress := none } : SwarmRun β).snapshot w = s.snapshot w := rfl
  dsimp only
  rw [hsnap, hsnap, quiet_snapshot]
  rcases s.snapshot w with o | r <;> rfl

omit [Behavior β] in
/-- **The run itself does not look at lines of progress.** -/
theorem stageStep_quiet (first : Bool) (s : SwarmRun β) :
    stageStep w first (s.quiet T) = (stageStep w first s).map (quiet T) := by
  unfold stageStep
  rw [quiet_stage, quiet_settings, quiet_isStopping, quiet_now, quiet_unheard, quiet_allHeard]
  cases s.stage with
  | spawning i => dsimp only; split_ifs <;> rfl
  | pausing i due =>
    dsimp only
    rcases Turn.of first (decide (due ≤ s.now)) s.isStopping with _ | _ | _ <;> rfl
  | joining =>
    dsimp only
    rcases Turn.of first (!s.unheard.isEmpty || s.allHeard) s.isStopping with _ | _ | _
    · rfl
    · exact congrArg some s.endJoining_quiet
    · rcases s.unheard with _ | ⟨i, rest⟩
      · exact congrArg some s.endJoining_quiet
      · exact congrArg some (s.hear_quiet i rest)
  | draining =>
    rcases s.unheard with _ | ⟨i, rest⟩
    · dsimp only
      split_ifs
      · exact congrArg some s.finish_quiet
      · rfl
    · exact congrArg some (s.hear_quiet i rest)
  | returned time r => rfl

omit [Behavior β] in
theorem stageWalk_quiet (first : Nat → Bool) (n : Nat) (s : SwarmRun β) :
    stageWalk w first n (s.quiet T) = (stageWalk w first n s).quiet T := by
  induction n generalizing s with
  | zero => rfl
  | succ n ih =>
    unfold stageWalk
    rw [stageStep_quiet]
    rcases stageStep w (first n) s with _ | s'
    · rfl
    · exact ih s'

omit [Behavior β] in
theorem pollTimer_quiet (first : Bool) (s : SwarmRun β) :
    pollTimer first (s.quiet T) = (pollTimer first s).quiet T := by
  unfold pollTimer
  rw [quiet_timer, quiet_isStopping, quiet_now, trigger_quiet]
  rcases s.timer with _ | due
  · rfl
  · dsimp only
    rcases Turn.of first (decide (due ≤ s.now)) s.isStopping with _ | _ | _ <;> rfl

/-- **No task but that of the lines of progress looks at them.** -/
theorem poll_quiet {task : TaskName} (other : task ≠ .progress) (first : Nat → Bool)
    (s : SwarmRun β) : poll w task first (s.quiet T) = (poll w task first s).quiet T := by
  cases task with
  | stage => exact stageWalk_quiet first s.stageSteps s
  | timer => exact pollTimer_quiet (first 0) s
  | progress => exact absurd rfl other
  | user i =>
    unfold poll
    have hready : (s.quiet T).isReady (.user i) = s.isReady (.user i) := rfl
    dsimp only
    rw [hready]
    split_ifs
    · exact pollUser_quiet first i turnLength s
    · rfl

/-! ## The task of the lines of progress -/

omit [Behavior β] in
theorem progressStep_quiet {first : Bool} {s s' : SwarmRun β}
    (h : progressStep w first s = some s') (hnow : s.now = T) :
    s'.now = T ∧ s'.quiet T = s.quiet T := by
  unfold progressStep at h
  split at h
  · split at h
    · split at h
      · cases h
        refine ⟨hnow, ?_⟩
        unfold quiet note linesBut
        dsimp only
        rw [List.filter_cons_of_neg (by simp [lineTime?, hnow])]
      · cases h; exact ⟨hnow, rfl⟩
    · cases h; exact ⟨hnow, rfl⟩
    · cases h
  · cases h

omit [Behavior β] in
/-- **Lines of progress change nothing else.** -/
theorem pollProgress_quiet (first : Nat → Bool) (n : Nat) {s : SwarmRun β}
    (h : s.now = T ∨ s.progress = none) : (pollProgress w first n s).quiet T = s.quiet T := by
  induction n generalizing s with
  | zero => rfl
  | succ n ih =>
    unfold pollProgress
    rcases hstep : progressStep w (first n) s with _ | s'
    · rfl
    · rcases h with hnow | hnone
      · obtain ⟨hnow', hquiet⟩ := progressStep_quiet hstep hnow
        exact (ih (.inl hnow')).trans hquiet
      · unfold progressStep at hstep
        rw [hnone] at hstep
        cases hstep

omit [Behavior β] in
/-- With no lines of progress to come, time passes just as well without those of a time. -/
theorem advance_quiet {s : SwarmRun β} (h : s.progress = none) (time : Nat) :
    (s.quiet T).advance time = (s.advance time).quiet T := by
  have hprogress : (s.quiet T).progressTime = s.progressTime := by
    unfold progressTime; rw [h]; rfl
  have hidle : (s.quiet T).isIdle = s.isIdle := by unfold isIdle; rw [hprogress]; rfl
  have hdues : (s.quiet T).dues = s.dues := by unfold dues; rw [hprogress]; rfl
  unfold advance
  rw [hidle, hdues]
  split_ifs <;> rfl

/-! ## The times of the lines -/

omit [Behavior β] in
theorem lineTimes_triggered (s : SwarmRun β) (reason : String) :
    lineTimes (s.triggered reason).events = lineTimes s.events := by
  unfold triggered
  dsimp only
  split <;> rfl

variable {s s' : SwarmRun β} {settings : SwarmSettings} {latch : Latch} {start : Nat}
  {interval : Duration}

omit [Behavior β] in
theorem progressDue_mono (interval : Duration) {m n : Nat} (h : m ≤ n) :
    s.progressDue m interval ≤ s.progressDue n interval :=
  Nat.add_le_add_left (s.clock.tick_le interval m n h) _

/-- **A change logs a line of progress that is due**, or none. -/
theorem Change.line_cases (hc : Change w s s') :
    (∃ n interval, s.progress = some n ∧ s.settings.statsInterval = some interval ∧
      s.progressDue n interval ≤ s.now ∧ s'.progress = some (n + 1) ∧
      lineTimes s'.events = s.now :: lineTimes s.events) ∨
      lineTimes s'.events = lineTimes s.events ∧ ∀ n, s'.progress = some n → s.progress = some n := by
  cases hc with
  | progress n interval r line every ready => exact .inl ⟨n, interval, line, every, ready, rfl, rfl⟩
  | report | noReport | dropProgress => exact .inr ⟨rfl, nofun⟩
  | endJoining | timeout | trigger => exact .inr ⟨lineTimes_triggered s _, fun _ h => h⟩
  | hear i rest =>
    refine .inr ⟨?_, fun _ h => h⟩
    unfold heardOf
    dsimp only
    split <;> rfl
  | _ => exact .inr ⟨rfl, fun _ h => h⟩

theorem Leads.lineTimes_eq_nil (h : Leads w s s') (never : s.settings.statsInterval = none)
    (hs : lineTimes s.events = []) : lineTimes s'.events = [] := by
  refine h.induction (P := fun s' => lineTimes s'.events = []) (fun s₁ s₂ hl ih hc => ?_)
    (fun _ _ _ ih => ih) hs
  rcases hc.line_cases with ⟨n, interval, -, every, -⟩ | ⟨hlines, -⟩
  · rw [hl.settings_eq, never] at every; cases every
  · rw [hlines, ih]

/-- A run that has returned has no lines of progress to come. -/
theorem progress_of_returned (h : Leads w (.begin w settings latch start) s)
    (hr : s.stage.isReturned = true) : s.progress = none := by
  refine h.induction (P := fun s => s.stage.isReturned = true → s.progress = none)
    (fun s₁ s₂ _ hs hc hr' => ?_) (fun _ _ _ hs => hs) nofun hr
  cases hc with
  | report | noReport | dropProgress => rfl
  | progress n interval r line => rw [hs hr'] at line; cases line
  | spawn i => unfold SwarmRun.spawn at hr'; dsimp only at hr'; split_ifs at hr' <;> cases hr'
  | resumeSpawning | endSpawning | endJoining => cases hr'
  | _ => exact hs hr'

/-- At the time of the stop, or with no lines of progress to come. -/
theorem StandsAt.now_or_progress (ht : StandsAt T s)
    (hl : Leads w (.begin w settings latch start) s) : s.now = T ∨ s.progress = none := by
  rcases hr : s.stage.isReturned with _ | _
  · exact .inl (ht.1 hr)
  · exact .inr (progress_of_returned hl hr)

/-- **Every line of progress was logged when it was due**, and the next one is not late. -/
structure Punctual (interval : Duration) (s : SwarmRun β) : Prop where
  logged : (lineTimes s.events).reverse =
    (List.range (lineTimes s.events).length).map fun k => s.progressDue (k + 1) interval
  next : ∀ n, s.progress = some n →
    n = (lineTimes s.events).length + 1 ∧ s.now ≤ s.progressDue n interval

theorem Change.punctual (hc : Change w s s') (every : s.settings.statsInterval = some interval)
    (h : Punctual interval s) : Punctual interval s' := by
  have hdue (n : Nat) : s'.progressDue n interval = s.progressDue n interval := by
    unfold progressDue; rw [hc.start_eq, hc.clock_eq]
  rcases hc.line_cases with ⟨n, interval', hn, hi, hready, hn', hlines⟩ | ⟨hlines, hsame⟩
  · rw [every] at hi; cases hi
    -- the line is logged no later than it is due, and it is due by now
    obtain ⟨rfl, hnow⟩ := h.next n hn
    refine ⟨?_, fun m hm => ?_⟩
    · rw [hlines, List.reverse_cons, List.length_cons, List.range_succ, List.map_append, h.logged]
      simp only [hdue, List.map_cons, List.map_nil, Nat.le_antisymm hnow hready]
    · rw [hn'] at hm; cases hm
      refine ⟨by rw [hlines, List.length_cons], ?_⟩
      rw [hdue, hc.now_eq]
      exact hnow.trans (progressDue_mono interval (Nat.le_succ _))
  · refine ⟨?_, fun n hn => ?_⟩
    · simp only [hlines, hdue]; exact h.logged
    · rw [hlines, hdue, hc.now_eq]; exact h.next n (hsame n hn)

/-- **In every run, lines of progress are logged when they are due.** -/
theorem run_punctual (every : settings.statsInterval = some interval) (latch : Latch) (start : Nat)
    (as : List Action) : Punctual interval (run w (.begin w settings latch start) as) := by
  refine run_induction
    (fun s₁ s₂ hl hs hc => hc.punctual (by rw [hl.settings_eq]; exact every) hs)
    (fun s₁ time hl _ _ hdue hs => ?_) ?_ as
  · -- the next line is one of the things that time does not pass by
    refine ⟨hs.logged, fun n hn => ?_⟩
    obtain ⟨hnum, hnow⟩ := hs.next n hn
    have htime : s₁.progressTime = some (s₁.progressDue n interval) := by
      have hi : s₁.settings.statsInterval = some interval := by rw [hl.settings_eq]; exact every
      have hn' : s₁.progress = some n := hn
      unfold progressTime; rw [hn', hi]
    have hmem : s₁.progressDue n interval ∈ s₁.dues := by simp [dues, htime]
    exact ⟨hnum, hdue _ hmem hnow⟩
  · refine ⟨rfl, fun n hn => ?_⟩
    obtain rfl : 1 = n := by simpa [SwarmRun.begin, every] using hn
    exact ⟨rfl, Nat.le_add_right _ _⟩

/-- **No two lines of progress have the same time**, with a millisecond or more between them. -/
theorem run_count_line_le_one
    (apart : ∀ interval, settings.statsInterval = some interval →
      nanosPerMilli ≤ interval.nanos ∧ ∀ n, w.clock.KeepsTick interval n)
    (latch : Latch) (start : Nat) (as : List Action) (T : Nat) :
    (lineTimes (run w (.begin w settings latch start) as).events).count T ≤ 1 := by
  have hl := run_leads (w := w) (.begin w settings latch start) as
  rcases every : settings.statsInterval with _ | interval
  · rw [hl.lineTimes_eq_nil every rfl]
    exact Nat.zero_le 1
  · obtain ⟨hmilli, keeps⟩ := apart interval every
    refine List.nodup_iff_count_le_one.1 (List.nodup_reverse.1 ?_) T
    rw [(run_punctual every latch start as).logged]
    refine List.nodup_range.map fun a b hab => ?_
    have hclock : (run w (.begin w settings latch start) as).clock = w.clock := hl.clock_eq
    have htick := Nat.add_left_cancel hab
    rw [hclock] at htick
    exact Nat.succ_injective ((Clock.tick_strictMono keeps hmilli).injective htick)

end SwarmRun

end LoadSwarm
