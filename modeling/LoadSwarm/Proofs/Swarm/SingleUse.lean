/-
  A swarm can be used once.

  * `Latch.triggerAll`, `Latch.announced`: triggers in turn; only the first one of all is announced
    (`announced_eq_take`).
  * `Triggers reasons s s'`: the stop of a run is triggered for some reasons in turn.
  * `triggersOf`, `runTriggers`: the reasons for which actions trigger the stop, whoever does it;
    `act_triggers` and `run_triggers` say so.
  * `Deserted s`: a run that was stopped before it began has no users and no figures.
  * `EndsAtOnce`: so it does nothing, and returns a report of nothing as it begins.
  * `poll_of_returned`: nothing is left of a run that has returned.
  * `Episode`, `Swarm.live`, `Swarm.stopLines`: runs of a swarm, one after the other, with triggers
    before, during and after them.
  * `Swarm.SingleUse`: what holds after every such history.
-/
import LoadSwarm.Proofs.Swarm.Choice

namespace LoadSwarm

/-! ## Triggers in turn -/

namespace Latch

/-- The latch after triggers in turn. -/
def triggerAll (l : Latch) (reasons : List String) : Latch := reasons.foldl trigger l

/-- The reasons that are announced at triggers in turn. -/
def announced (l : Latch) : List String → List String
  | [] => []
  | r :: rs => (l.announced? r).toList ++ announced (l.trigger r) rs

variable {l : Latch} {reasons : List String}

theorem triggerAll_append (l : Latch) (rs rs' : List String) :
    l.triggerAll (rs ++ rs') = (l.triggerAll rs).triggerAll rs' := List.foldl_append

theorem announced_append (l : Latch) (rs rs' : List String) :
    l.announced (rs ++ rs') = l.announced rs ++ (l.triggerAll rs).announced rs' := by
  induction rs generalizing l with
  | nil => rfl
  | cons r rs ih =>
    rw [List.cons_append, announced, ih, announced, List.append_assoc]
    rfl

theorem triggerAll_of_isTriggered (h : l.isTriggered = true) (rs : List String) :
    l.triggerAll rs = l := by
  induction rs with
  | nil => rfl
  | cons r rs ih => unfold triggerAll at ih ⊢; rw [List.foldl_cons, trigger_of_isTriggered h, ih]

theorem announced_of_isTriggered (h : l.isTriggered = true) (rs : List String) :
    l.announced rs = [] := by
  induction rs with
  | nil => rfl
  | cons r rs ih =>
    rw [announced, announced?_eq, if_pos h, trigger_of_isTriggered h, ih]
    rfl

/-- **The first of all triggers is announced, and no other.** -/
theorem announced_eq_take (h : l.isTriggered = false) (rs : List String) :
    l.announced rs = rs.take 1 := by
  cases rs with
  | nil => rfl
  | cons r rs =>
    rw [announced, announced?_eq, if_neg (by simp [h]),
      announced_of_isTriggered (isTriggered_trigger l r)]
    rfl

theorem isTriggered_triggerAll :
    (l.triggerAll reasons).isTriggered = true ↔ l.isTriggered = true ∨ reasons ≠ [] := by
  cases reasons with
  | nil => simp [triggerAll]
  | cons r rs =>
    have h := triggerAll_of_isTriggered (isTriggered_trigger l r) rs
    have hcons : l.triggerAll (r :: rs) = (l.trigger r).triggerAll rs := rfl
    simp [hcons, h, isTriggered_trigger]

end Latch

/-- The reason of a stop that an event announces. -/
def SwarmEvent.stopReason? : SwarmEvent → Option String
  | stopping reason => some reason
  | _ => none

/-- The reasons of stops that events announce, in order, of events with the last one first. -/
def stopsOf (events : List (Nat × SwarmEvent)) : List String :=
  events.reverse.filterMap fun e => e.2.stopReason?

theorem stopsOf_cons (e : Nat × SwarmEvent) (es : List (Nat × SwarmEvent)) :
    stopsOf (e :: es) = stopsOf es ++ e.2.stopReason?.toList := by
  unfold stopsOf
  rw [List.reverse_cons, List.filterMap_append]
  rcases h : e.2.stopReason? <;> simp [h]

theorem stopsOf_cons_of_none {e : Nat × SwarmEvent} (h : e.2.stopReason? = none)
    (es : List (Nat × SwarmEvent)) : stopsOf (e :: es) = stopsOf es := by
  rw [stopsOf_cons, h, Option.toList_none, List.append_nil]

namespace SwarmRun

variable {β : Type} {w : Surroundings β} {s s' s'' : SwarmRun β} {reasons reasons' : List String}

/-- **The stop of a run is triggered for some reasons in turn.** -/
structure Triggers (reasons : List String) (s s' : SwarmRun β) : Prop where
  latch : s'.latch = s.latch.triggerAll reasons
  announced : stopsOf s'.events = stopsOf s.events ++ s.latch.announced reasons

theorem Triggers.none (latch : s'.latch = s.latch)
    (announced : stopsOf s'.events = stopsOf s.events) : Triggers [] s s' :=
  ⟨latch, announced.trans (List.append_nil _).symm⟩

theorem Triggers.trans (h : Triggers reasons s s') (h' : Triggers reasons' s' s'') :
    Triggers (reasons ++ reasons') s s'' where
  latch := by rw [h'.latch, h.latch, Latch.triggerAll_append]
  announced := by
    rw [h'.announced, h.announced, h.latch, Latch.announced_append, List.append_assoc]

theorem triggers_triggered (s : SwarmRun β) (reason : String) :
    Triggers [reason] s (s.triggered reason) := by
  refine ⟨rfl, ?_⟩
  unfold triggered
  rcases h : s.latch.announced? reason with _ | r
  · simp [Latch.announced, h]
  · simp [Latch.announced, h, stopsOf_cons, SwarmEvent.stopReason?]

/-! ## The triggers of a user's turn -/

/-- The reasons for which a client triggers the stop at requests, in order, of requests with the
    last one first. -/
def requestTriggers (w : Surroundings β) : List StartedRequest → List String
  | [] => []
  | r :: rs => requestTriggers w rs ++ (w.client rs.length r.path).trigger.toList

/-- What triggers the stop are the requests that are started. -/
def Asks (w : Surroundings β) (s s' : SwarmRun β) : Prop :=
  ∃ reasons, requestTriggers w s'.requests = requestTriggers w s.requests ++ reasons ∧
    Triggers reasons s s'

theorem Asks.of_eq (latch : s'.latch = s.latch) (requests : s'.requests = s.requests)
    (announced : stopsOf s'.events = stopsOf s.events) : Asks w s s' :=
  ⟨[], by rw [requests, List.append_nil], .none latch announced⟩

theorem Asks.trans (h : Asks w s s') (h' : Asks w s' s'') : Asks w s s'' := by
  obtain ⟨rs, hr, ht⟩ := h
  obtain ⟨rs', hr', ht'⟩ := h'
  exact ⟨rs ++ rs', by rw [hr', hr, List.append_assoc], ht.trans ht'⟩

theorem Asks.of_steps (h : Relation.ReflTransGen (Asks w) s s') : Asks w s s' := by
  induction h with
  | refl => exact .of_eq rfl rfl rfl
  | tail _ hlast ih => exact ih.trans hlast

theorem asks_finishRequest (s : SwarmRun β) (i : Nat) (t : UserTask β) (number : Nat)
    (path : String) (since : Nat) (outcome : Outcome) :
    Asks w s (finishRequest w s i t number path since outcome) := by
  unfold finishRequest
  rcases s.stats.record path (Duration.ofMillis (s.now - since)) outcome with ⟨stats, _ | o⟩
  · simp only [startWait]
    rcases s.settings.waitTime.next (w.word s.waits) with e | _ | d <;> exact .of_eq rfl rfl rfl
  · exact .of_eq rfl rfl rfl

theorem asks_asked (s : SwarmRun β) (i : Nat) (path : String) : Asks w s (s.asked w i path) := by
  unfold asked
  rcases h : (w.client s.requests.length path).trigger with _ | reason
  · exact ⟨[], by simp [requestTriggers, h], .none rfl rfl⟩
  · refine ⟨[reason], by simp [requestTriggers, triggered, h], ?_⟩
    have ht := triggers_triggered { s with requests := ⟨s.now, i, path⟩ :: s.requests } reason
    exact ⟨ht.latch, ht.announced⟩

theorem asks_startRequest (s : SwarmRun β) (i : Nat) (t : UserTask β) (path : String) :
    Asks w s (startRequest w s i t path) := by
  rw [startRequest_eq]
  split_ifs
  · exact (asks_asked s i path).trans (asks_finishRequest _ i t _ path _ _)
  · exact (asks_asked s i path).trans (.of_eq rfl rfl rfl)

theorem asks_stopUser (s : SwarmRun β) (i : Nat) (t : UserTask β) : Asks w s (s.stopUser i t) :=
  .of_eq rfl rfl (stopsOf_cons_of_none rfl _)

variable [Behavior β]

theorem asks_iterate (s : SwarmRun β) (i : Nat) (t : UserTask β) : Asks w s (iterate w s i t) := by
  unfold iterate
  split_ifs
  · exact asks_stopUser s i t
  · rcases Behavior.next t.behavior with ⟨path | e | message, b⟩
    · exact asks_startRequest s i { t with behavior := b } path
    · exact .of_eq rfl rfl (stopsOf_cons_of_none rfl _)
    · exact .of_eq rfl rfl rfl

theorem asks_resumeUser (first : Bool) (s : SwarmRun β) (i : Nat) (t : UserTask β) :
    Asks w s (resumeUser w first s i t) := by
  have refl : Asks w s s := .of_eq rfl rfl rfl
  unfold resumeUser
  cases t.phase with
  | starting =>
    have hgreet : Asks w s (s.note (.userStarted i (Behavior.name β))) :=
      .of_eq rfl rfl (stopsOf_cons_of_none rfl _)
    exact hgreet.trans (asks_iterate _ i t)
  | yielding => exact asks_iterate s i t
  | requesting number path since due outcome =>
    dsimp only
    split_ifs
    · exact asks_stopUser s i t
    · exact asks_finishRequest s i t number path since outcome
    · exact refl
  | waiting due =>
    dsimp only
    rcases Turn.of first (decide (due ≤ s.now)) s.isStopping with _ | _ | _
    · exact refl
    · exact asks_stopUser s i t
    · exact asks_iterate s i t
  | ended exit => exact refl

/-- **In the turn of a user, what triggers the stop are the requests that it starts.** -/
theorem asks_poll_user (s : SwarmRun β) (i : Nat) (first : Nat → Bool) :
    Asks w s (poll w (.user i) first s) := by
  unfold poll
  dsimp only
  split_ifs
  · exact .of_steps (pollUser_steps (fun first s i t _ => .single (asks_resumeUser first s i t))
      first i turnLength s)
  · exact .of_eq rfl rfl rfl

/-! ## The triggers of the other tasks -/

end SwarmRun

/-- Whether a run has not yet come to its own trigger. -/
def Stage.isOpen : Stage → Bool
  | spawning _ | pausing .. | joining => true
  | draining | returned .. => false

/-- The trigger that a run makes by itself between two of its stages. -/
def Stage.triggersTo (st st' : Stage) : List String :=
  if st.isOpen && !st'.isOpen then [SwarmRun.finishReason] else []

namespace SwarmRun

variable {β : Type} {w : Surroundings β} {s s' s'' : SwarmRun β}

/-- The run itself goes on, and triggers the stop once, where it ceases to be open. -/
structure GoesOn (s s' : SwarmRun β) : Prop where
  triggers : Triggers (s.stage.triggersTo s'.stage) s s'
  closed : s.stage.isOpen = false → s'.stage.isOpen = false

theorem GoesOn.of_eq (stage : s'.stage.isOpen = s.stage.isOpen) (latch : s'.latch = s.latch)
    (announced : stopsOf s'.events = stopsOf s.events) : GoesOn s s' := by
  have hnone : s.stage.triggersTo s'.stage = [] := by
    unfold Stage.triggersTo; rw [stage]; cases s.stage.isOpen <;> rfl
  exact ⟨hnone ▸ .none latch announced, fun h => stage.trans h⟩

theorem GoesOn.trans (h : GoesOn s s') (h' : GoesOn s' s'') : GoesOn s s'' := by
  have happend : s.stage.triggersTo s''.stage =
      s.stage.triggersTo s'.stage ++ s'.stage.triggersTo s''.stage := by
    have hc := h.closed
    have hc' := h'.closed
    unfold Stage.triggersTo
    generalize s.stage.isOpen = a at *
    generalize s'.stage.isOpen = b at *
    generalize s''.stage.isOpen = c at *
    cases a <;> cases b <;> cases c <;> simp_all
  exact ⟨happend ▸ h.triggers.trans h'.triggers, fun hs => h'.closed (h.closed hs)⟩

theorem GoesOn.of_steps (h : Relation.ReflTransGen GoesOn s s') : GoesOn s s' := by
  induction h with
  | refl => exact .of_eq rfl rfl rfl
  | tail _ hlast ih => exact ih.trans hlast

theorem stopsOf_hear (s : SwarmRun β) (i : Nat) (rest : List Nat) :
    stopsOf (s.hear i rest).events = stopsOf s.events := by
  rw [hear_eq]
  unfold heardOf
  dsimp only
  split
  · exact stopsOf_cons_of_none rfl _
  · rfl

theorem stopsOf_finish (w : Surroundings β) (s : SwarmRun β) :
    stopsOf (s.finish w).events = stopsOf s.events ∧ (s.finish w).latch = s.latch := by
  unfold finish
  dsimp only
  split
  · exact ⟨rfl, rfl⟩
  · exact ⟨stopsOf_cons_of_none rfl _, rfl⟩

theorem stageStep_goesOn {first : Bool} (h : stageStep w first s = some s') : GoesOn s s' := by
  have hear (i : Nat) (rest : List Nat) (hun : s.unheard = i :: rest) :
      GoesOn s (s.hear i rest) := by
    refine .of_eq (congrArg Stage.isOpen (hear_stage s i rest)) ?_ (stopsOf_hear s i rest)
    rw [hear_eq]; rfl
  have join (hst : s.stage = .joining) : GoesOn s s.endJoining := by
    have ht := triggers_triggered s finishReason
    unfold endJoining
    rw [trigger_eq]
    refine ⟨?_, fun hno => by rw [hst] at hno; cases hno⟩
    rw [hst]
    exact ⟨ht.latch, ht.announced⟩
  unfold stageStep at h
  split at h
  · next i hst =>
    split_ifs at h <;> cases h
    · refine .of_eq ?_ rfl rfl
      unfold spawn; rw [hst]; dsimp only; split_ifs <;> rfl
    · exact .of_eq (by rw [hst]; rfl) rfl (stopsOf_cons_of_none rfl _)
  · next i due hst =>
    split at h
    · cases h; exact .of_eq (by rw [hst]; rfl) rfl rfl
    · cases h; exact .of_eq (by rw [hst]; rfl) rfl (stopsOf_cons_of_none rfl _)
    · cases h
  · next hst =>
    split at h
    · split at h
      · next i rest hun => cases h; exact hear i rest hun
      · cases h; exact join hst
    · cases h; exact join hst
    · cases h
  · next hst =>
    split at h
    · next i rest hun => cases h; exact hear i rest hun
    · split_ifs at h
      cases h
      obtain ⟨hstops, hlatch⟩ := stopsOf_finish w s
      refine .of_eq ?_ hlatch hstops
      obtain ⟨time, r, hret⟩ := Stage.exists_of_isReturned (s.isReturned_finish w)
      rw [hret, hst]; rfl
  · cases h

/-- The trigger that a turn of the timer makes: at its time, unless it follows the stop. -/
def timerTriggers (s : SwarmRun β) (first : Bool) : List String :=
  match s.timer with
  | some due =>
    if Turn.of first (due ≤ s.now) s.isStopping = some true then [timerReason] else []
  | none => []

theorem pollTimer_triggers (first : Bool) (s : SwarmRun β) :
    Triggers (s.timerTriggers first) s (pollTimer first s) := by
  unfold timerTriggers pollTimer
  rcases s.timer with _ | due
  · exact .none rfl rfl
  · dsimp only
    rcases Turn.of first (decide (due ≤ s.now)) s.isStopping with _ | _ | _
    · exact .none rfl rfl
    · exact .none rfl rfl
    · have ht := triggers_triggered s timerReason
      rw [if_pos rfl]
      simp only [trigger_eq]
      exact ⟨ht.latch, ht.announced⟩

theorem progressStep_triggers {first : Bool} (h : progressStep w first s = some s') :
    Triggers [] s s' := by
  unfold progressStep at h
  split at h
  · split at h
    · split at h <;> cases h
      · exact .none rfl (stopsOf_cons_of_none rfl _)
      · exact .none rfl rfl
    · cases h; exact .none rfl rfl
    · cases h
  · cases h

/-! ## The triggers of a run -/

variable [Behavior β]

/-- **The reasons for which an action triggers the stop, in order**, whether or not it was triggered
    before: those of the client at the requests that a user starts, that of the timer at its time,
    that of the run itself as it has nothing more to wait for, or that of a handle. -/
def triggersOf (w : Surroundings β) (s : SwarmRun β) (a : Action) : List String :=
  match a with
  | .poll (.user _) _ =>
    (requestTriggers w (act w s a).requests).drop (requestTriggers w s.requests).length
  | .poll .timer first => s.timerTriggers (first 0)
  | .poll .stage _ => s.stage.triggersTo (act w s a).stage
  | .poll .progress _ => []
  | .trigger reason => [reason]
  | .advance _ => []

theorem act_triggers (s : SwarmRun β) (a : Action) : Triggers (triggersOf w s a) s (act w s a) := by
  cases a with
  | poll task first =>
    cases task with
    | user i =>
      obtain ⟨reasons, hr, ht⟩ := asks_poll_user (w := w) s i first
      have hnew : triggersOf w s (.poll (.user i) first) = reasons := by
        unfold triggersOf act
        dsimp only
        rw [hr, List.drop_left]
      rw [hnew]
      exact ht
    | timer => exact pollTimer_triggers (first 0) s
    | stage =>
      exact (GoesOn.of_steps
        (stageWalk_steps (fun _ _ _ h => stageStep_goesOn h) first _ s)).triggers
    | progress =>
      have hsteps := pollProgress_steps (w := w) (R := Triggers [])
        (fun _ _ _ h => progressStep_triggers h) first turnLength s
      unfold act poll triggersOf
      dsimp only
      generalize pollProgress w first turnLength s = s' at hsteps
      induction hsteps with
      | refl => exact .none rfl rfl
      | tail _ hlast ih => exact ih.trans hlast
  | trigger reason =>
    unfold act; dsimp only; rw [trigger_eq]
    exact triggers_triggered s reason
  | advance time =>
    refine .none ?_ ?_ <;> (unfold act advance; dsimp only; split_ifs <;> rfl)

/-- The reasons for which actions trigger the stop, in order. -/
def runTriggers (w : Surroundings β) (s : SwarmRun β) : List Action → List String
  | [] => []
  | a :: as => triggersOf w s a ++ runTriggers w (act w s a) as

theorem run_triggers (s : SwarmRun β) (as : List Action) :
    Triggers (runTriggers w s as) s (run w s as) := by
  induction as generalizing s with
  | nil => exact .none rfl rfl
  | cons a as ih => exact (act_triggers s a).trans (ih _)

/-! ## Runs that were stopped before they began -/

/-- A run without users and without figures. -/
structure Deserted (s : SwarmRun β) : Prop where
  stopping : s.isStopping = true
  made : s.made = []
  users : s.users = []
  unheard : s.unheard = []
  requests : s.requests = []
  iterations : s.iterations = []
  stats : s.stats = {}
  failures : s.tally.failures = []

theorem Change.deserted (hc : Change w s s') (h : Deserted s) : Deserted s' := by
  have nobody {i : Nat} {t : UserTask β} (user : s.users[i]? = some t) : False := by
    rw [h.users] at user; cases user
  have hs := hc.isStopping h.stopping
  cases hc with
  | greet i t user | request i t path b user | overflow i t number path since due outcome stats o user
  | answerYield i t number path since due outcome stats user
  | answerWait i t number path since due outcome stats d user
  | answerCrash i t number path since due outcome stats e user | stop i t user
  | fail i t e b user | crash i t message b user => exact (nobody user).elim
  | spawn i stage room going => rw [h.stopping] at going; cases going
  | hear i rest stage unheard => rw [h.unheard] at unheard; cases unheard
  | _ => exact ⟨hs, h.made, h.users, h.unheard, h.requests, h.iterations, h.stats, h.failures⟩

theorem run_deserted {settings : SwarmSettings} {latch : Latch} (hlatch : latch.isTriggered = true)
    (start : Nat) (as : List Action) :
    Deserted (run w (.begin w settings latch start) as) :=
  (run_leads (w := w) _ as).induction (P := Deserted) (fun _ _ _ hs hc => hc.deserted hs)
    (fun _ _ _ hs => ⟨hs.stopping, hs.made, hs.users, hs.unheard, hs.requests, hs.iterations,
      hs.stats, hs.failures⟩)
    ⟨hlatch, rfl, rfl, rfl, rfl, rfl, rfl, rfl⟩

/-- The figures of a run without requests. -/
structure NoFigures (report : StatsReport) : Prop where
  entries : report.entries = []
  requests : report.total.requests = 0
  failures : report.total.failures = 0

omit [Behavior β] in
theorem Deserted.result (h : Deserted s) (hres : ResultOf w s) {time : Nat}
    {result : Except RunFailure StatsReport} (hst : s.stage = .returned time result) :
    ∃ report, result = .ok report ∧ NoFigures report := by
  have htotal : RequestStats.total {} = .ok {} := rfl
  have hres := hres time result hst
  rw [h.stats] at hres
  rcases hres with ⟨elapsed, report, hsnap, rfl⟩ | ⟨o, ho, -⟩
  · obtain ⟨total, ht, rfl⟩ := RequestStats.snapshot_eq_ok_iff.1 hsnap
    rw [htotal] at ht
    cases ht
    have hconclude (r : StatsReport) : s.conclude r = .ok r := by unfold conclude; rw [h.failures]
    exact ⟨_, hconclude _, rfl, rfl, rfl⟩
  · rw [htotal] at ho; cases ho

/-- **A run that does nothing and returns as it begins.** -/
structure EndsAtOnce (w : Surroundings β) (s₀ : SwarmRun β) : Prop where
  /-- no user is made, no request is started and no iteration is finished -/
  nothing : ∀ actions, (run w s₀ actions).made = [] ∧ (run w s₀ actions).requests = [] ∧
    (run w s₀ actions).iterations = []
  /-- until the run has returned, no time passes, and there is a task that can go on -/
  still : ∀ actions, (run w s₀ actions).stage.isReturned = false →
    (run w s₀ actions).now = s₀.start ∧ (run w s₀ actions).isIdle = false
  /-- it returns in the first turn that it has itself -/
  returns : ∀ before first after,
    (run w s₀ (before ++ .poll .stage first :: after)).stage.isReturned = true
  /-- at the time at which it began, with a report of nothing -/
  result : ∀ actions time result, (run w s₀ actions).stage = .returned time result →
    time = s₀.start ∧ ∃ report, result = .ok report ∧ NoFigures report

/-- **A run that was stopped before it began ends at once.** -/
theorem begin_endsAtOnce (w : Surroundings β) (settings : SwarmSettings) {latch : Latch}
    (hlatch : latch.isTriggered = true) (start : Nat) :
    EndsAtOnce w (.begin w settings latch start) := by
  have hstop : (SwarmRun.begin w settings latch start).isStopping = true := hlatch
  have stands (actions : List Action) := (StopsAt.early (w := w) hstop).standsAt actions
  have deserted (actions : List Action) :
      Deserted (run w (.begin w settings latch start) actions) := run_deserted hlatch start actions
  refine ⟨fun actions => ?_, fun actions hr => ⟨(stands actions).1 hr, ?_⟩,
    fun before first after => ?_, fun actions time result hst => ⟨?_, ?_⟩⟩
  · exact ⟨(deserted actions).made, (deserted actions).requests, (deserted actions).iterations⟩
  · exact not_idle (run_leads _ actions) (deserted actions).stopping hr
  · exact returned_of_turns .refl hstop (fun i hi => by cases hi) first after
  · exact (stands actions).2 time result hst
  · exact (deserted actions).result (leads_result (run_leads _ actions)) hst

/-! ## Runs that have returned -/

theorem timer_of_returned {settings : SwarmSettings} {latch : Latch} {start : Nat}
    (h : Leads w (.begin w settings latch start) s) (hr : s.stage.isReturned = true) :
    s.timer = none := by
  refine h.induction (P := fun s => s.stage.isReturned = true → s.timer = none)
    (fun s s' _ hs hc => ?_) (fun _ _ _ hs => hs) nofun hr
  intro hr'
  obtain ⟨time, result, hst⟩ := Stage.exists_of_isReturned hr'
  cases hc with
  | spawn i stage room going => unfold SwarmRun.spawn at hst; dsimp only at hst; split_ifs at hst
  | resumeSpawning | endSpawning | endJoining => cases hst
  | report | noReport | timeout | dropTimer => rfl
  | _ => exact hs hr'

/-- **Nothing is left of a run that has returned**: no task of it goes on. -/
theorem poll_of_returned {settings : SwarmSettings} {latch : Latch} {start : Nat}
    (h : Leads w (.begin w settings latch start) s) (hr : s.stage.isReturned = true)
    (task : TaskName) (first : Nat → Bool) : poll w task first s = s := by
  cases task with
  | stage => exact stageWalk_of_returned first _ hr
  | timer => unfold poll pollTimer; dsimp only; rw [timer_of_returned h hr]
  | progress =>
    unfold poll; dsimp only; rw [turnLength]
    unfold pollProgress progressStep; rw [progress_of_returned h hr]
  | user i =>
    have hready : s.isReady (.user i) = false := by
      unfold isReady
      dsimp only
      rcases hu : s.users[i]? with _ | t
      · rfl
      · have ended := (ended_of_returned h hr).not_alive hu
        dsimp only
        unfold canResume
        cases hp : t.phase with
        | ended exit => rfl
        | starting | yielding | requesting | waiting => simp [UserTask.exit?, hp] at ended
    unfold poll; dsimp only; rw [hready]; rfl

end SwarmRun

/-! ## Histories of a swarm -/

/-- **Something that happens to a swarm**: a handle triggers the stop, or the swarm runs, with all
    that happens while it does. -/
inductive Episode : Type 1 where
  | trigger (reason : String)
  | run {β : Type} [Behavior β] (w : Surroundings β) (start : Nat) (actions : List Action)

namespace Episode

/-- The swarm that an episode leaves. -/
def leaves (swarm : Swarm) : Episode → Swarm
  | trigger reason => (swarm.trigger reason).1
  | run w start actions => swarm.after (SwarmRun.run w (swarm.begin w start) actions)

/-- The events of an episode, in order. -/
def events (swarm : Swarm) : Episode → List SwarmEvent
  | trigger reason => (swarm.trigger reason).2.toList
  | run w start actions => (SwarmRun.run w (swarm.begin w start) actions).events.reverse.map (·.2)

/-- The reasons for which the stop is triggered in an episode, in order. -/
def triggers (swarm : Swarm) : Episode → List String
  | trigger reason => [reason]
  | run w start actions => SwarmRun.runTriggers w (swarm.begin w start) actions

/-- Whether an episode is a run that returns. -/
def Returns (swarm : Swarm) : Episode → Prop
  | trigger _ => False
  | run w start actions => (SwarmRun.run w (swarm.begin w start) actions).stage.isReturned = true

variable {swarm : Swarm} (e : Episode)

theorem latch_leaves : (e.leaves swarm).latch = swarm.latch.triggerAll (e.triggers swarm) := by
  cases e with
  | trigger reason => rfl
  | run w start actions => exact (SwarmRun.run_triggers (w := w) (swarm.begin w start) actions).latch

theorem stops_events :
    (e.events swarm).filterMap SwarmEvent.stopReason? =
      swarm.latch.announced (e.triggers swarm) := by
  cases e with
  | trigger reason =>
    unfold events Swarm.trigger triggers
    dsimp only
    rw [Latch.announced, Latch.announced]
    rcases swarm.latch.announced? reason with _ | r <;> rfl
  | run w start actions =>
    have h := (SwarmRun.run_triggers (w := w) (swarm.begin w start) actions).announced
    unfold events triggers
    rw [List.filterMap_map]
    exact h

theorem isTriggered_of_returns {e : Episode} (h : e.Returns swarm) :
    (e.leaves swarm).latch.isTriggered = true := by
  cases e with
  | trigger reason => exact h.elim
  | run w start actions => exact SwarmRun.stopping_of_returned (SwarmRun.run_leads _ actions) h

end Episode

namespace Swarm

/-- The swarm that a history leaves. -/
def live (swarm : Swarm) : List Episode → Swarm
  | [] => swarm
  | e :: es => (e.leaves swarm).live es

/-- The reasons for which the stop is triggered in a history, in order. -/
def triggers (swarm : Swarm) : List Episode → List String
  | [] => []
  | e :: es => e.triggers swarm ++ (e.leaves swarm).triggers es

/-- The lines that a history logs about the stop, in order. -/
def stopLines (swarm : Swarm) : List Episode → List String
  | [] => []
  | e :: es =>
    ((e.events swarm).filterMap fun v => v.stopReason?.map fun _ => v.record.message) ++
      (e.leaves swarm).stopLines es

/-- Whether a run of a history has returned. -/
def Returned (swarm : Swarm) : List Episode → Prop
  | [] => False
  | e :: es => e.Returns swarm ∨ (e.leaves swarm).Returned es

variable {swarm : Swarm} {history : List Episode}

theorem live_append (swarm : Swarm) (es es' : List Episode) :
    swarm.live (es ++ es') = (swarm.live es).live es' := by
  induction es generalizing swarm with
  | nil => rfl
  | cons e es ih => exact ih (e.leaves swarm)

theorem latch_live (swarm : Swarm) (history : List Episode) :
    (swarm.live history).latch = swarm.latch.triggerAll (swarm.triggers history) := by
  induction history generalizing swarm with
  | nil => rfl
  | cons e es ih => rw [live, ih, triggers, e.latch_leaves, Latch.triggerAll_append]

theorem stopLines_eq (swarm : Swarm) (history : List Episode) :
    swarm.stopLines history =
      (swarm.latch.announced (swarm.triggers history)).map fun r => "Stopping swarm: " ++ r := by
  induction history generalizing swarm with
  | nil => rfl
  | cons e es ih =>
    have hline (v : SwarmEvent) : (v.stopReason?.map fun _ => v.record.message) =
        v.stopReason?.map fun r => "Stopping swarm: " ++ r := by cases v <;> rfl
    rw [stopLines, ih, triggers, Latch.announced_append, List.map_append, e.latch_leaves,
      ← e.stops_events, List.map_filterMap]
    simp only [hline]

theorem isTriggered_live (h : swarm.latch.isTriggered = true) (history : List Episode) :
    (swarm.live history).latch.isTriggered = true := by
  rw [latch_live, Latch.isTriggered_triggerAll]; exact .inl h

theorem isTriggered_of_returned (h : swarm.Returned history) :
    (swarm.live history).latch.isTriggered = true := by
  induction history generalizing swarm with
  | nil => exact h.elim
  | cons e es ih =>
    rcases h with h | h
    · exact isTriggered_live (Episode.isTriggered_of_returns h) es
    · exact ih h

/-- **What holds of a swarm after a history** of runs and of triggers before, during and after
    them. -/
structure SingleUse (settings : SwarmSettings) (history : List Episode) : Prop where
  /-- the stop was triggered if somebody triggered it -/
  triggered_iff : (live { settings } history).latch.isTriggered = true ↔
    triggers { settings } history ≠ []
  /-- it was triggered if a run has returned -/
  returned : Returned { settings } history →
    (live { settings } history).latch.isTriggered = true
  /-- it stays triggered, whatever else happens -/
  lasting : ∀ more, (live { settings } history).latch.isTriggered = true →
    (live { settings } (history ++ more)).latch.isTriggered = true
  /-- a run that begins after the stop was triggered ends at once -/
  later : (live { settings } history).latch.isTriggered = true →
    ∀ {β : Type} [Behavior β] (w : Surroundings β) (start : Nat),
      SwarmRun.EndsAtOnce w ((live { settings } history).begin w start)
  /-- nothing is left of a run that has returned -/
  nothingLeft : ∀ {β : Type} [Behavior β] (w : Surroundings β) (start : Nat) (actions : List Action)
    (task : TaskName) (first : Nat → Bool),
    let s := SwarmRun.run w ((live { settings } history).begin w start) actions
    s.stage.isReturned = true → SwarmRun.poll w task first s = s
  /-- the log has a line for the first of all triggers, and no other about the stop -/
  lines : stopLines { settings } history =
    ((triggers { settings } history).take 1).map fun r => "Stopping swarm: " ++ r
  /-- and has this line if a run has returned -/
  line : Returned { settings } history → ∃ reason,
    (triggers { settings } history).head? = some reason ∧
      stopLines { settings } history = ["Stopping swarm: " ++ reason]

/-- **A swarm is for a single use**, whatever happens to it. -/
theorem history_singleUse (settings : SwarmSettings) (history : List Episode) :
    SingleUse settings history := by
  have hlines : stopLines { settings } history =
      ((triggers { settings } history).take 1).map fun r => "Stopping swarm: " ++ r := by
    rw [stopLines_eq, Latch.announced_eq_take rfl]
  have htriggered : (live { settings } history).latch.isTriggered = true ↔
      triggers { settings } history ≠ [] := by
    rw [latch_live, Latch.isTriggered_triggerAll]
    exact or_iff_right Bool.false_ne_true
  refine
    { triggered_iff := htriggered
      returned := isTriggered_of_returned
      lasting := fun more h => by rw [live_append]; exact isTriggered_live h more
      later := fun h _ _ w start => SwarmRun.begin_endsAtOnce w _ h start
      nothingLeft := fun w start actions task first hr =>
        SwarmRun.poll_of_returned (SwarmRun.run_leads _ actions) hr task first
      lines := hlines
      line := fun h => ?_ }
  have hne := htriggered.1 (isTriggered_of_returned h)
  rw [hlines]
  rcases ht : triggers { settings } history with _ | ⟨reason, reasons⟩
  · exact absurd ht hne
  · exact ⟨reason, rfl, rfl⟩

open SwarmRun in
example :
    let turns : List Action := [.poll .stage fun _ => true, .poll (.user 0) fun _ => true]
    let early : Episode := .run slowAnswer 0 (turns ++ [.advance 1000, .poll .timer fun _ => true] ++
      turns ++ [.poll .stage fun _ => true])
    let late : Episode := .run slowAnswer 3000 turns
    stopLines { settings := { runTime := some (.ofSeconds 1) } }
      [early, .trigger "interrupted", late] = ["Stopping swarm: run time elapsed"] := by
  decide +kernel

end Swarm

end LoadSwarm
