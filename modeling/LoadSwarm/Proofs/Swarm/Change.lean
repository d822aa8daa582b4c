/-
  What a step of a run can change.

  * `Change w s s'`: one change of a run with everything that it needs; every step of every
    task is made of changes (`resumeUser_changes`, `stageStep_change`, `pollTimer_changes`,
    `progressStep_change`).
  * `Goes w s s'`: a task of a run goes on to the next thing that it waits for, the stop is
    triggered, or time passes, at whatever moment.  `Reaches` is any number of these.
  * `Leads w s s'`: any number of changes, with any passing of time; `Reaches.leads` makes runs
    of it, and `Leads.induction` is what holds on in them.
  * `poll_steps`: a turn of a task is made of its steps; `poll_changes` and `run_reaches` follow
    for turns and for runs of actions.
-/
import Mathlib
import LoadSwarm.Proofs.Swarm.Latch
import LoadSwarm.Swarm.Run

namespace LoadSwarm

open Relation

/-! ## Users and their phases -/

/-- Whether a user is at the point where an iteration begins, at some time. -/
def UserPhase.beginsAt (now : Nat) : UserPhase → Bool
  | starting | yielding => true
  | waiting due => due ≤ now
  | requesting .. | ended _ => false

namespace UserTask
variable {β : Type}

theorem exit?_eq_some_iff {t : UserTask β} {e : UserExit} :
    t.exit? = some e ↔ t.phase = .ended e := by
  unfold exit?; cases t.phase <;> simp

theorem exit?_eq_none_of_begins {t : UserTask β} {now : Nat} (h : t.phase.beginsAt now = true) :
    t.exit? = none := by
  unfold exit?; cases hp : t.phase <;> simp_all [UserPhase.beginsAt]

end UserTask

/-! ## Turns -/

namespace Turn
variable {first left right : Bool}

theorem left_of (h : Turn.of first left right = some true) : left = true := by
  cases left with
  | true => rfl
  | false => cases right <;> cases h

theorem right_of (h : Turn.of first left right = some false) : right = true := by
  cases right with
  | true => rfl
  | false => cases left <;> cases h

/-- With the second thing ready, one of the two goes on. -/
theorem of_true (first left : Bool) : Turn.of first left true = some (left && first) := by
  cases left <;> rfl

/-- With the second thing not ready, only the first one can go on. -/
theorem of_false (first left : Bool) :
    Turn.of first left false = if left then some true else none := by
  cases left <;> rfl

end Turn

namespace SwarmRun

variable {β : Type}

/-! ## States after a change -/

/-- The stop is triggered. -/
def triggered (s : SwarmRun β) (reason : String) : SwarmRun β :=
  { s with
    latch := s.latch.trigger reason
    events := match s.latch.announced? reason with
      | some r => (s.now, .stopping r) :: s.events
      | none => s.events }

theorem trigger_eq (s : SwarmRun β) (reason : String) : s.trigger reason = s.triggered reason := by
  unfold trigger triggered
  rcases hl : s.latch with ⟨_ | r⟩ <;> simp only [Latch.announced?, Latch.trigger, note]
  rw [← hl]

/-- What a user waits for that starts a request now. -/
def requestPhase (w : Surroundings β) (s : SwarmRun β) (path : String) : UserPhase :=
  let reply := w.client s.requests.length path
  .requesting s.requests.length path s.now (s.now + reply.latency) reply.outcome

/-- A user has asked for a path, and the client may have triggered the stop. -/
def asked (w : Surroundings β) (s : SwarmRun β) (i : Nat) (path : String) : SwarmRun β :=
  let s' := { s with requests := ⟨s.now, i, path⟩ :: s.requests }
  match (w.client s.requests.length path).trigger with
  | some reason => s'.triggered reason
  | none => s'

theorem asked_users (w : Surroundings β) (s : SwarmRun β) (i : Nat) (path : String) :
    (s.asked w i path).users = s.users := by
  unfold asked; dsimp only; split <;> rfl

theorem asked_now (w : Surroundings β) (s : SwarmRun β) (i : Nat) (path : String) :
    (s.asked w i path).now = s.now := by
  unfold asked; dsimp only; split <;> rfl

/-- A request is recorded, and its iteration has ended. -/
def answered (s : SwarmRun β) (i number since : Nat) (stats : RequestStats) : SwarmRun β :=
  { s with stats := stats, iterations := ⟨i, since, s.now, some number, none⟩ :: s.iterations }

end SwarmRun

/-- The tally with the end of one more user. -/
def Tally.hear (t : Tally) : Option UserExit → Tally
  | some (.stopped n) => { t with heard := t.heard + 1, iterations := t.iterations + n }
  | some (.failed e) => { t with heard := t.heard + 1, failures := t.failures ++ [e] }
  | some (.crashed _) | none => { t with heard := t.heard + 1 }

namespace SwarmRun

variable {β : Type}

/-- How the user with a number has ended. -/
def exitOf? (s : SwarmRun β) (i : Nat) : Option UserExit := (s.users[i]?).bind UserTask.exit?

/-- The run has heard of the end of a user. -/
def heardOf (s : SwarmRun β) (i : Nat) (rest : List Nat) : SwarmRun β :=
  { s with
    unheard := rest
    tally := s.tally.hear (s.exitOf? i)
    events := match s.exitOf? i with
      | some (.crashed message) => (s.now, .userCrashed i message) :: s.events
      | _ => s.events }

theorem hear_eq (s : SwarmRun β) (i : Nat) (rest : List Nat) :
    s.hear i rest = s.heardOf i rest := by
  unfold hear heardOf exitOf?
  dsimp only
  rcases (s.users[i]?).bind UserTask.exit? with _ | _ | _ | _ <;> rfl

/-! ## Changes -/

variable [Behavior β]

/-- **One change of a run**, with everything that it needs. -/
inductive Change (w : Surroundings β) (s : SwarmRun β) : SwarmRun β → Prop
  /-- a user has its first turn -/
  | greet (i : Nat) (t : UserTask β) (user : s.users[i]? = some t) (turn : t.phase = .starting) :
      Change w s (s.note (.userStarted i (Behavior.name β)))
  /-- a user starts a request -/
  | request (i : Nat) (t : UserTask β) (path : String) (b : β) (user : s.users[i]? = some t)
      (turn : t.phase.beginsAt s.now = true) (going : s.isStopping = false)
      (move : Behavior.next t.behavior = (.request path, b)) :
      Change w s
        { s with
          requests := ⟨s.now, i, path⟩ :: s.requests
          users := s.users.set i { t with behavior := b, phase := s.requestPhase w path } }
  /-- an answer is there, but a sum leaves its range -/
  | overflow (i : Nat) (t : UserTask β) (number : Nat) (path : String) (since due : Nat)
      (outcome : Outcome) (stats : RequestStats) (o : StatsOverflow) (user : s.users[i]? = some t)
      (phase : t.phase = .requesting number path since due outcome) (ready : due ≤ s.now)
      (record : s.stats.record path (Duration.ofMillis (s.now - since)) outcome = (stats, some o)) :
      Change w s ({ s with stats := stats }.endUser i t (.crashed o.message))
  /-- an answer is recorded, and the user gives up its turn -/
  | answerYield (i : Nat) (t : UserTask β) (number : Nat) (path : String) (since due : Nat)
      (outcome : Outcome) (stats : RequestStats) (user : s.users[i]? = some t)
      (phase : t.phase = .requesting number path since due outcome) (ready : due ≤ s.now)
      (record : s.stats.record path (Duration.ofMillis (s.now - since)) outcome = (stats, none))
      (wait : s.settings.waitTime.next (w.word s.waits) = .ok none) :
      Change w s
        ((s.answered i number since stats).setUser i
          { t with iterations := t.iterations + 1, phase := .yielding })
  /-- an answer is recorded, and the user waits -/
  | answerWait (i : Nat) (t : UserTask β) (number : Nat) (path : String) (since due : Nat)
      (outcome : Outcome) (stats : RequestStats) (d : Duration) (user : s.users[i]? = some t)
      (phase : t.phase = .requesting number path since due outcome) (ready : due ≤ s.now)
      (record : s.stats.record path (Duration.ofMillis (s.now - since)) outcome = (stats, none))
      (wait : s.settings.waitTime.next (w.word s.waits) = .ok (some d)) :
      Change w s
        { (s.answered i number since stats).setUser i
            { t with
              iterations := t.iterations + 1
              phase := .waiting (s.now + s.clock.sleep d) } with
          waits := s.waits + 1 }
  /-- an answer is recorded, but no wait can be drawn -/
  | answerCrash (i : Nat) (t : UserTask β) (number : Nat) (path : String) (since due : Nat)
      (outcome : Outcome) (stats : RequestStats) (e : WaitFailure) (user : s.users[i]? = some t)
      (phase : t.phase = .requesting number path since due outcome) (ready : due ≤ s.now)
      (record : s.stats.record path (Duration.ofMillis (s.now - since)) outcome = (stats, none))
      (wait : s.settings.waitTime.next (w.word s.waits) = .error e) :
      Change w s
        ((s.answered i number since stats).endUser i { t with iterations := t.iterations + 1 }
          (.crashed e.message))
  /-- a user follows the stop -/
  | stop (i : Nat) (t : UserTask β) (user : s.users[i]? = some t) (alive : t.exit? = none)
      (stopping : s.isStopping = true) : Change w s (s.stopUser i t)
  /-- a user cannot go on -/
  | fail (i : Nat) (t : UserTask β) (e : UserError) (b : β) (user : s.users[i]? = some t)
      (turn : t.phase.beginsAt s.now = true) (going : s.isStopping = false)
      (move : Behavior.next t.behavior = (.fail e, b)) :
      Change w s
        ({ s.note (.userFailed i e) with
            iterations := ⟨i, s.now, s.now, none, some e⟩ :: s.iterations }.endUser i
          { t with behavior := b } (.failed e))
  /-- a user breaks down -/
  | crash (i : Nat) (t : UserTask β) (message : String) (b : β) (user : s.users[i]? = some t)
      (turn : t.phase.beginsAt s.now = true) (going : s.isStopping = false)
      (move : Behavior.next t.behavior = (.crash message, b)) :
      Change w s (s.endUser i { t with behavior := b } (.crashed message))
  /-- a user is made -/
  | spawn (i : Nat) (stage : s.stage = .spawning i) (room : i < s.settings.users)
      (going : s.isStopping = false) : Change w s (s.spawn w i)
  /-- it is time for the next user -/
  | resumeSpawning (i due : Nat) (stage : s.stage = .pausing i due) (ready : due ≤ s.now) :
      Change w s { s with stage := .spawning i }
  /-- no more users will be made -/
  | endSpawning
      (ready : (∃ i, s.stage = .spawning i ∧ (s.settings.users ≤ i ∨ s.isStopping = true)) ∨
        ∃ i due, s.stage = .pausing i due ∧ s.isStopping = true) :
      Change w s s.endSpawning
  /-- the run hears of the end of a user -/
  | hear (i : Nat) (rest : List Nat) (stage : s.stage = .joining ∨ s.stage = .draining)
      (unheard : s.unheard = i :: rest) : Change w s (s.heardOf i rest)
  /-- the run stops by itself, unless it was stopped -/
  | endJoining (stage : s.stage = .joining)
      (ready : s.isStopping = true ∨ (s.unheard = [] ∧ s.allHeard = true)) :
      Change w s { s.triggered finishReason with stage := .draining }
  /-- the run returns a result -/
  | report (r : StatsReport) (stage : s.stage = .draining) (unheard : s.unheard = [])
      (heard : s.allHeard = true) (snapshot : s.snapshot w = .ok r) :
      Change w s
        { s.note (.stopped s.tally.iterations r.total.requests r.total.failures) with
          timer := none, progress := none, stage := .returned s.now (s.conclude r) }
  /-- the run breaks down over its figures -/
  | noReport (o : StatsOverflow) (stage : s.stage = .draining) (unheard : s.unheard = [])
      (heard : s.allHeard = true) (snapshot : s.snapshot w = .error o) :
      Change w s
        { s with
          timer := none, progress := none, stage := .returned s.now (.error (.crashed o.message)) }
  /-- the run time is over -/
  | timeout (due : Nat) (timer : s.timer = some due) (ready : due ≤ s.now) :
      Change w s { s.triggered timerReason with timer := none }
  /-- the timer is over -/
  | dropTimer (due : Nat) (timer : s.timer = some due) (stopping : s.isStopping = true) :
      Change w s { s with timer := none }
  /-- a line of progress -/
  | progress (n : Nat) (interval : Duration) (r : StatsReport) (line : s.progress = some n)
      (every : s.settings.statsInterval = some interval) (ready : s.progressDue n interval ≤ s.now)
      (snapshot : s.snapshot w = .ok r) :
      Change w s { s.note (.progress r.total) with progress := some (n + 1) }
  /-- the lines of progress are over: the run stops, or a sum leaves its range -/
  | dropProgress (n : Nat) (line : s.progress = some n)
      (ready : s.isStopping = true ∨ ∃ o, s.snapshot w = .error o) :
      Change w s { s with progress := none }
  /-- the stop is triggered from outside, or by a request -/
  | trigger (reason : String) : Change w s (s.triggered reason)

/-- Any number of changes. -/
abbrev Changes (w : Surroundings β) : SwarmRun β → SwarmRun β → Prop := ReflTransGen (Change w)

variable {w : Surroundings β} {s s' : SwarmRun β}

/-! ## Users -/

omit [Behavior β] in
/-- Where the user was does not matter for the state in which an answer leaves it. -/
theorem finishRequest_setUser (i : Nat) (t : UserTask β) (p : UserPhase) (number : Nat)
    (path : String) (since : Nat) (outcome : Outcome) :
    finishRequest w (s.setUser i { t with phase := p }) i { t with phase := p } number path since
      outcome = finishRequest w s i t number path since outcome := by
  unfold finishRequest
  simp only [setUser]
  rcases s.stats.record path (Duration.ofMillis (s.now - since)) outcome with ⟨stats, _ | o⟩
  · simp only [startWait]
    rcases s.settings.waitTime.next (w.word s.waits) with e | _ | d <;>
      simp [setUser, endUser, List.set_set]
  · simp [setUser, endUser, List.set_set]

/-- An answer that is there makes one change. -/
theorem finishRequest_change {i : Nat} {t : UserTask β} {number : Nat} {path : String} {since : Nat}
    (due : Nat) {outcome : Outcome} (user : s.users[i]? = some t)
    (phase : t.phase = .requesting number path since due outcome) (ready : due ≤ s.now) :
    Change w s (finishRequest w s i t number path since outcome) := by
  unfold finishRequest
  rcases hr : s.stats.record path (Duration.ofMillis (s.now - since)) outcome with ⟨stats, _ | o⟩
  · simp only [startWait]
    rcases hw : s.settings.waitTime.next (w.word s.waits) with e | _ | d
    · exact .answerCrash i t number path since due outcome stats e user phase ready hr hw
    · exact .answerYield i t number path since due outcome stats user phase ready hr hw
    · exact .answerWait i t number path since due outcome stats d user phase ready hr hw
  · exact .overflow i t number path since due outcome stats o user phase ready hr

omit [Behavior β] in
theorem startRequest_eq (i : Nat) (t : UserTask β) (path : String) :
    startRequest w s i t path =
      if (w.client s.requests.length path).latency = 0 then
        finishRequest w (s.asked w i path) i t s.requests.length path s.now
          (w.client s.requests.length path).outcome
      else (s.asked w i path).setUser i { t with phase := s.requestPhase w path } := by
  unfold startRequest asked
  dsimp only
  rcases (w.client s.requests.length path).trigger with _ | reason
  · rfl
  · simp only [trigger_eq]; rfl

/-- A user that starts a request makes one change, up to two more if the client triggers the stop
    and if the answer takes no time. -/
theorem startRequest_changes {i : Nat} {t : UserTask β} {path : String} {b : β}
    (user : s.users[i]? = some t) (turn : t.phase.beginsAt s.now = true)
    (going : s.isStopping = false) (move : Behavior.next t.behavior = (.request path, b)) :
    Changes w s (startRequest w s i { t with behavior := b } path) := by
  have hi : i < s.users.length := (List.getElem?_eq_some_iff.1 user).1
  have h1 := Change.request (w := w) i t path b user turn going move
  have started : Changes w s
      ((s.asked w i path).setUser i { t with behavior := b, phase := s.requestPhase w path }) := by
    unfold asked
    rcases (w.client s.requests.length path).trigger with _ | reason
    · exact .single h1
    · exact (ReflTransGen.single h1).tail (.trigger reason)
  rw [startRequest_eq]
  split_ifs with hl
  · refine started.tail ?_
    rw [← finishRequest_setUser i { t with behavior := b } (s.requestPhase w path)]
    refine finishRequest_change (s.now + (w.client s.requests.length path).latency) ?_ rfl ?_
    · simp [setUser, asked_users, hi]
    · simp [setUser, asked_now, hl]
  · exact started

theorem iterate_changes {i : Nat} {t : UserTask β} (user : s.users[i]? = some t)
    (turn : t.phase.beginsAt s.now = true) : Changes w s (iterate w s i t) := by
  unfold iterate
  split_ifs with hs
  · exact .single (.stop i t user (UserTask.exit?_eq_none_of_begins turn) hs)
  · have going : s.isStopping = false := by simpa using hs
    rcases hm : Behavior.next t.behavior with ⟨path | e | message, b⟩
    · exact startRequest_changes user turn going hm
    · exact .single (.fail i t e b user turn going hm)
    · exact .single (.crash i t message b user turn going hm)

/-- **A user that goes on makes changes.** -/
theorem resumeUser_changes (first : Bool) {i : Nat} {t : UserTask β} (user : s.users[i]? = some t) :
    Changes w s (resumeUser w first s i t) := by
  unfold resumeUser
  split
  · next hp =>
    refine .head (.greet i t user hp) (iterate_changes user ?_)
    rw [hp]; rfl
  · next hp => exact iterate_changes user (by rw [hp]; rfl)
  · next number path since due outcome hp =>
    split_ifs with hs hd
    · exact .single (.stop i t user (by simp [UserTask.exit?, hp]) hs)
    · exact .single (finishRequest_change due user hp hd)
    · exact .refl
  · next due hp =>
    have alive : t.exit? = none := by simp [UserTask.exit?, hp]
    split
    · next hturn => exact iterate_changes user (by rw [hp]; exact Turn.left_of hturn)
    · next hturn => exact .single (.stop i t user alive (Turn.right_of hturn))
    · exact .refl
  · exact .refl

/-! ## The run itself and its background tasks -/

/-- **A step of the run itself is a change.** -/
theorem stageStep_change {first : Bool} (h : stageStep w first s = some s') : Change w s s' := by
  unfold stageStep at h
  split at h
  · next i hst =>
    split_ifs at h with hc <;> cases h
    · simp only [Bool.and_eq_true, decide_eq_true_eq, Bool.not_eq_true'] at hc
      exact .spawn i hst hc.1 hc.2
    · refine .endSpawning (.inl ⟨i, hst, ?_⟩)
      by_cases hi : i < s.settings.users
      · exact .inr (by simpa [hi] using hc)
      · exact .inl (not_lt.1 hi)
  · next i due hst =>
    split at h
    · next hturn =>
      cases h; exact .resumeSpawning i due hst (of_decide_eq_true (Turn.left_of hturn))
    · next hturn => cases h; exact .endSpawning (.inr ⟨i, due, hst, Turn.right_of hturn⟩)
    · cases h
  · next hst =>
    -- hearing of an end, or of the stop, or of nothing more to hear of
    have join (ready : s.isStopping = true ∨ (s.unheard = [] ∧ s.allHeard = true)) :
        Change w s s.endJoining := by
      unfold endJoining; rw [trigger_eq]; exact .endJoining hst ready
    split at h
    · next hturn =>
      have hready := Turn.left_of hturn
      split at h
      · next i rest hun => cases h; rw [hear_eq]; exact .hear i rest (.inl hst) hun
      · next hun => cases h; exact join (.inr ⟨hun, by simpa [hun] using hready⟩)
    · next hturn => cases h; exact join (.inl (Turn.right_of hturn))
    · cases h
  · next hst =>
    split at h
    · next i rest hun => cases h; rw [hear_eq]; exact .hear i rest (.inr hst) hun
    · next hun =>
      split_ifs at h with hh
      cases h
      unfold finish
      have hsnap : { s with timer := none, progress := none }.snapshot w = s.snapshot w := rfl
      simp only [hsnap]
      rcases hr : s.snapshot w with o | r
      · exact .noReport o hst hun hh hr
      · exact .report r hst hun hh hr
  · cases h

theorem pollTimer_changes (first : Bool) : Changes w s (pollTimer first s) := by
  unfold pollTimer
  split
  · exact .refl
  · next due ht =>
    split
    · next hturn =>
      rw [trigger_eq]; exact .single (.timeout due ht (of_decide_eq_true (Turn.left_of hturn)))
    · next hturn => exact .single (.dropTimer due ht (Turn.right_of hturn))
    · exact .refl

/-- **A step of the lines of progress is a change.** -/
theorem progressStep_change {first : Bool} (h : progressStep w first s = some s') :
    Change w s s' := by
  unfold progressStep at h
  split at h
  · next n interval hn hi =>
    split at h
    · next hturn =>
      rcases hr : s.snapshot w with o | r
      · rw [hr] at h; cases h
        exact .dropProgress n hn (.inr ⟨o, hr⟩)
      · rw [hr] at h; cases h
        exact .progress n interval r hn hi (of_decide_eq_true (Turn.left_of hturn)) hr
    · next hturn => cases h; exact .dropProgress n hn (.inl (Turn.right_of hturn))
    · cases h
  · cases h

/-! ## Turns of tasks -/

section
variable {R : SwarmRun β → SwarmRun β → Prop}

theorem pollUser_steps (user : ∀ (first : Bool) (s : SwarmRun β) (i : Nat) (t : UserTask β),
      s.users[i]? = some t → ReflTransGen R s (resumeUser w first s i t))
    (first : Nat → Bool) (i n : Nat) (s : SwarmRun β) :
    ReflTransGen R s (pollUser w first i n s) := by
  induction n generalizing s with
  | zero => exact .refl
  | succ n ih =>
    unfold pollUser
    rcases hu : s.users[i]? with _ | t
    · exact .refl
    have h := user (first n) s i t hu
    dsimp only
    rcases (resumeUser w (first n) s i t).users[i]? with _ | t'
    · exact h
    · dsimp only; split_ifs
      · exact h.trans (ih _)
      · exact h

omit [Behavior β] in
theorem stageWalk_steps (stage : ∀ (first : Bool) (s s' : SwarmRun β),
      stageStep w first s = some s' → R s s')
    (first : Nat → Bool) (n : Nat) (s : SwarmRun β) :
    ReflTransGen R s (stageWalk w first n s) := by
  induction n generalizing s with
  | zero => exact .refl
  | succ n ih =>
    unfold stageWalk
    rcases h : stageStep w (first n) s with _ | s'
    · exact .refl
    · exact .head (stage _ _ _ h) (ih s')

omit [Behavior β] in
theorem pollProgress_steps (progress : ∀ (first : Bool) (s s' : SwarmRun β),
      progressStep w first s = some s' → R s s')
    (first : Nat → Bool) (n : Nat) (s : SwarmRun β) :
    ReflTransGen R s (pollProgress w first n s) := by
  induction n generalizing s with
  | zero => exact .refl
  | succ n ih =>
    unfold pollProgress
    rcases h : progressStep w (first n) s with _ | s'
    · exact .refl
    · exact .head (progress _ _ _ h) (ih s')

/-- **A turn of a task is made of its steps**, whatever they are taken for. -/
theorem poll_steps
    (user : ∀ (first : Bool) (s : SwarmRun β) (i : Nat) (t : UserTask β),
      s.users[i]? = some t → ReflTransGen R s (resumeUser w first s i t))
    (stage : ∀ (first : Bool) (s s' : SwarmRun β), stageStep w first s = some s' → R s s')
    (timer : ∀ (first : Bool) (s : SwarmRun β), ReflTransGen R s (pollTimer first s))
    (progress : ∀ (first : Bool) (s s' : SwarmRun β), progressStep w first s = some s' → R s s')
    (task : TaskName) (first : Nat → Bool) (s : SwarmRun β) :
    ReflTransGen R s (poll w task first s) := by
  cases task with
  | stage => exact stageWalk_steps stage first _ s
  | timer => exact timer (first 0) s
  | progress => exact pollProgress_steps progress first _ s
  | user i =>
    unfold poll; dsimp only; split_ifs
    · exact pollUser_steps user first i _ s
    · exact .refl

end

theorem pollUser_changes (first : Nat → Bool) (i n : Nat) :
    Changes w s (pollUser w first i n s) :=
  pollUser_steps (fun first _ _ _ user => resumeUser_changes first user) first i n s

/-- **A turn of a task is made of changes.** -/
theorem poll_changes (task : TaskName) (first : Nat → Bool) : Changes w s (poll w task first s) :=
  poll_steps (fun first _ _ _ user => resumeUser_changes first user)
    (fun _ _ _ h => stageStep_change h) (fun first _ => pollTimer_changes first)
    (fun _ _ _ h => progressStep_change h) task first s

/-! ## Runs at any pace -/

/-- **Something happens to a run**: a task goes on to the next thing that it waits for, the stop is
    triggered from outside, or time passes. -/
inductive Goes (w : Surroundings β) (s : SwarmRun β) : SwarmRun β → Prop
  | user (first : Bool) (i : Nat) (t : UserTask β) (user : s.users[i]? = some t) :
      Goes w s (resumeUser w first s i t)
  | stage (first : Bool) (s' : SwarmRun β) (step : stageStep w first s = some s') : Goes w s s'
  | timer (first : Bool) : Goes w s (pollTimer first s)
  | progress (first : Bool) (s' : SwarmRun β) (step : progressStep w first s = some s') :
      Goes w s s'
  | trigger (reason : String) : Goes w s (s.trigger reason)
  | pass (time : Nat) (later : s.now ≤ time) : Goes w s { s with now := time }

/-- What can become of a run, with its tasks in any order and at any pace. -/
abbrev Reaches (w : Surroundings β) : SwarmRun β → SwarmRun β → Prop := ReflTransGen (Goes w)

theorem Goes.changes_or_pass (h : Goes w s s') :
    Changes w s s' ∨ ∃ time, s.now ≤ time ∧ s' = { s with now := time } := by
  cases h with
  | user first i t user => exact .inl (resumeUser_changes first user)
  | stage first s' step => exact .inl (.single (stageStep_change step))
  | timer first => exact .inl (pollTimer_changes first)
  | progress first s' step => exact .inl (.single (progressStep_change step))
  | trigger reason => rw [trigger_eq]; exact .inl (.single (.trigger reason))
  | pass time later => exact .inr ⟨time, later, rfl⟩

/-- What happens to a run at its finest: a change, or the passing of time. -/
inductive Happens (w : Surroundings β) (s : SwarmRun β) : SwarmRun β → Prop
  | change (s' : SwarmRun β) (change : Change w s s') : Happens w s s'
  | pass (time : Nat) (later : s.now ≤ time) : Happens w s { s with now := time }

/-- Any number of changes with any passing of time between them. -/
abbrev Leads (w : Surroundings β) : SwarmRun β → SwarmRun β → Prop := ReflTransGen (Happens w)

theorem Changes.leads (h : Changes w s s') : Leads w s s' := by
  induction h with
  | refl => exact .refl
  | tail _ hc ih => exact ih.tail (.change _ hc)

/-- **A run at any pace is made of changes and the passing of time.** -/
theorem Reaches.leads (h : Reaches w s s') : Leads w s s' := by
  induction h with
  | refl => exact .refl
  | tail _ hg ih =>
    rcases hg.changes_or_pass with hc | ⟨time, hle, rfl⟩
    · exact ih.trans hc.leads
    · exact ih.tail (.pass time hle)

/-- **What no change breaks, and no passing of time, holds on.** -/
theorem Leads.induction {P : SwarmRun β → Prop}
    (change : ∀ s₁ s₂, Leads w s s₁ → P s₁ → Change w s₁ s₂ → P s₂)
    (pass : ∀ s₁ time, s₁.now ≤ time → P s₁ → P { s₁ with now := time }) (h : Leads w s s')
    (hs : P s) : P s' := by
  induction h with
  | refl => exact hs
  | tail hl hh ih =>
    cases hh with
    | change _ hc => exact change _ _ hl ih hc
    | pass time hle => exact pass _ time hle ih

/-! ## Runs of actions -/

omit [Behavior β] in
theorem advance_eq (s : SwarmRun β) (time : Nat) :
    s.advance time = s ∨ s.isIdle = true ∧ s.now ≤ (s.advance time).now ∧
      s.advance time = { s with now := (s.advance time).now } := by
  unfold advance; split_ifs with h
  · exact .inr ⟨h, le_max_left _ _, rfl⟩
  · exact .inl rfl

theorem act_reaches (a : Action) : Reaches w s (act w s a) := by
  cases a with
  | poll task first =>
    exact poll_steps (fun first _ i t user => .single (.user first i t user))
      (fun first _ s' h => .stage first s' h) (fun first _ => .single (.timer first))
      (fun first _ s' h => .progress first s' h) task first s
  | trigger reason => exact .single (.trigger reason)
  | advance time =>
    rcases advance_eq s time with h | ⟨-, hle, h⟩
    · unfold act; dsimp only; rw [h]
    · unfold act; dsimp only; rw [h]; exact .single (.pass _ hle)

/-- **A run of actions is one of the runs at any pace.** -/
theorem run_reaches (s : SwarmRun β) (actions : List Action) : Reaches w s (run w s actions) := by
  unfold run
  induction actions generalizing s with
  | nil => exact .refl
  | cons a as ih => exact (act_reaches a).trans (ih _)

end SwarmRun

end LoadSwarm
