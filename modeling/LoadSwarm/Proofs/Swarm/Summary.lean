/-
  The line that sums a run up.

  * `summaries s`, `iterationsOf s i`: the figures of that line, and the iterations of a user that
    ended well.
  * `Counted s`: a user knows how many of its iterations ended well, and a user that follows the
    stop hands that number over.
  * `Hears.iterations_eq`: the run adds up what it was handed over.
  * `SumsUp w s`: a run that has returned has one such line, with what it has heard and recorded,
    unless it broke down over its figures.
  * `Summary s k n f`, `returned_summary`: the iterations of that line are those of the users that
    followed the stop.  The iterations of users that failed or broke down are lost, although their
    requests are recorded.
-/
import LoadSwarm.Proofs.Swarm.Accounting
import LoadSwarm.Proofs.Swarm.Failure

namespace LoadSwarm

/-- The iterations that a user hands over as it ends. -/
def UserExit.handedOver : UserExit → Nat
  | stopped n => n
  | failed _ | crashed _ => 0

/-- The figures of an event that sums a run up. -/
def SwarmEvent.summary? : SwarmEvent → Option (Nat × Nat × Nat)
  | stopped iterations requests failures => some (iterations, requests, failures)
  | _ => none

namespace SwarmRun

variable {β : Type}

/-- How many iterations of a user ended well. -/
def iterationsOf (s : SwarmRun β) (i : Nat) : Nat :=
  s.iterations.countP fun it => it.user = i ∧ it.failure = none

/-- The figures of the events that sum a run up: iterations, requests, failures. -/
def summaries (s : SwarmRun β) : List (Nat × Nat × Nat) := s.events.filterMap (·.2.summary?)

/-- Whether a user has ended because the run stopped. -/
def followedStop (s : SwarmRun β) (i : Nat) : Bool :=
  match s.exitOf? i with
  | some (.stopped _) => true
  | _ => false

/-! ## What users count -/

section
variable {s s' : SwarmRun β} {w : Surroundings β}

/-- **Users count the iterations that end well**, and those that follow the stop hand the number
    over. -/
structure Counted (s : SwarmRun β) : Prop where
  count : ∀ i, s.iterationsOf i = ((s.users[i]?).map (·.iterations)).getD 0
  handed : ∀ (i : Nat) (t : UserTask β) (n : Nat), s.users[i]? = some t →
    t.phase = .ended (.stopped n) → n = t.iterations

namespace Counted
variable {i : Nat} {t t' : UserTask β}

/-- A user goes on, with as many iterations more as are added to those of the run. -/
theorem set (h : Counted s) (user : s.users[i]? = some t) (users : s'.users = s.users.set i t')
    (count : ∀ j, s'.iterationsOf j + (if i = j then t.iterations else 0) =
      s.iterationsOf j + if i = j then t'.iterations else 0)
    (handed : ∀ n, t'.phase = .ended (.stopped n) → n = t'.iterations) : Counted s' := by
  refine ⟨fun j => ?_, fun j u n => ?_⟩
  · have hj := h.count j
    have hadd := count j
    rw [users, getElem?_set_of_some user]
    split_ifs at hadd ⊢ with hij
    · subst hij
      rw [user] at hj
      simp only [Option.map_some, Option.getD_some] at hj ⊢
      omega
    · omega
  · rw [users, getElem?_set_of_some user]
    split_ifs with hij
    · rintro ⟨⟩ hp; exact handed n hp
    · exact h.handed j u n

/-- A user goes on without the end of an iteration. -/
theorem keep (h : Counted s) (user : s.users[i]? = some t) (users : s'.users = s.users.set i t')
    (iterations : s'.iterations = s.iterations) (same : t'.iterations = t.iterations)
    (handed : ∀ n, t'.phase = .ended (.stopped n) → n = t'.iterations) : Counted s' := by
  refine h.set user users (fun j => ?_) handed
  simp only [iterationsOf, iterations, same]

/-- An iteration of a user ends well. -/
theorem complete (h : Counted s) (user : s.users[i]? = some t)
    (users : s'.users = s.users.set i t') {it : FinishedIteration}
    (iterations : s'.iterations = it :: s.iterations) (owner : it.user = i)
    (good : it.failure = none) (more : t'.iterations = t.iterations + 1)
    (handed : ∀ n, t'.phase ≠ .ended (.stopped n)) : Counted s' := by
  refine h.set user users (fun j => ?_) fun n hp => absurd hp (handed n)
  simp only [iterationsOf, iterations, List.countP_cons, owner, good, more, and_true,
    decide_eq_true_eq]
  split_ifs <;> omega

end Counted

variable [Behavior β]

/-- **Every change keeps the counts of the users.** -/
theorem Change.counted (hc : Change w s s') (h : Counted s) : Counted s' := by
  cases hc with
  | request i t path b user | overflow i t number path since due outcome stats o user
  | crash i t message b user =>
    exact h.keep user rfl rfl rfl fun n hp => by cases hp
  | answerYield i t number path since due outcome stats user
  | answerWait i t number path since due outcome stats d user
  | answerCrash i t number path since due outcome stats e user =>
    exact h.complete user rfl rfl rfl rfl rfl fun n hp => by cases hp
  | stop i t user => exact h.keep user rfl rfl rfl fun n hp => by cases hp; rfl
  | fail i t e b user =>
    -- the iteration has ended, but not well
    refine h.set user rfl (fun j => ?_) fun n hp => by cases hp
    simp [iterationsOf, endUser, setUser, note]
  | spawn i =>
    refine ⟨fun j => ?_, fun j t n => ?_⟩
    · have hj := h.count j
      simp only [iterationsOf, SwarmRun.spawn, List.getElem?_append] at hj ⊢
      split_ifs with hlt
      · exact hj
      · rw [hj, List.getElem?_eq_none (not_lt.1 hlt)]
        rcases j - s.users.length with _ | k <;> simp
    · simp only [SwarmRun.spawn, List.getElem?_append]
      split_ifs with hlt
      · exact h.handed j t n
      · intro hu hp
        have ht := List.mem_singleton.1 (List.mem_of_getElem? hu)
        subst ht; cases hp
  | _ => exact ⟨h.count, h.handed⟩

theorem leads_counted {settings : SwarmSettings} {latch : Latch} {start : Nat}
    (h : Leads w (.begin w settings latch start) s) : Counted s :=
  h.induction (fun _ _ _ hs hc => hc.counted hs) (fun _ _ _ hs => ⟨hs.count, hs.handed⟩)
    ⟨fun _ => rfl, fun i t n hu => by cases hu⟩

end

/-! ## What the run adds up -/

/-- The iterations that a user has handed over. -/
def handedOver (s : SwarmRun β) (i : Nat) : Nat :=
  ((s.exitOf? i).map UserExit.handedOver).getD 0

/-- **The run adds up what it was handed over** by the users that it has heard of. -/
theorem Hears.iterations_eq {exit : Nat → Option UserExit} {unheard heard : List Nat} {tally : Tally}
    (h : Hears exit unheard tally heard) :
    tally.iterations = (heard.map fun i => ((exit i).map UserExit.handedOver).getD 0).sum := by
  have collect : ∀ (l : List Nat) (t : Tally),
      (l.foldl (fun t i => t.hear (exit i)) t).iterations =
        t.iterations + (l.map fun i => ((exit i).map UserExit.handedOver).getD 0).sum := by
    intro l
    induction l with
    | nil => intro t; rfl
    | cons j l ih =>
      intro t
      rw [List.foldl_cons, ih, List.map_cons, List.sum_cons]
      rcases exit j with _ | n | e | message <;>
        simp only [Tally.hear, UserExit.handedOver, Option.map_some, Option.map_none,
          Option.getD_some, Option.getD_none] <;> omega
  rw [h.tally, collect]
  exact Nat.zero_add _

section
variable {s s' : SwarmRun β} {w : Surroundings β}

theorem Counted.handedOver_eq (h : Counted s) (i : Nat) :
    s.handedOver i = if s.followedStop i then s.iterationsOf i else 0 := by
  unfold handedOver followedStop
  rcases he : s.exitOf? i with _ | n | e | message
  · rfl
  · obtain ⟨t, ht, hexit⟩ := Option.bind_eq_some_iff.1 he
    rw [if_pos rfl, h.count, ht]
    exact h.handed i t n ht (UserTask.exit?_eq_some_iff.1 hexit)
  · rfl
  · rfl

/-- The iterations that ended well are those of all users. -/
theorem Counted.sum_iterationsOf (h : Counted s) (hb : Books w s) :
    ∑ i ∈ Finset.range s.made.length, s.iterationsOf i = s.goodIterations := by
  have hmap : List.ofFn (fun i : Fin s.users.length => s.iterationsOf i) =
      s.users.map (·.iterations) := by
    refine List.ext_getElem (by simp) fun i h1 h2 => ?_
    simp [h.count]
  rw [← hb.completed_length, ← hb.balance.counted, hb.balance.made, Finset.sum_range,
    ← List.sum_ofFn, hmap]

/-! ## The line itself -/

theorem summaries_note (s : SwarmRun β) (e : SwarmEvent) :
    (s.note e).summaries = e.summary?.toList ++ s.summaries := by
  unfold summaries note
  rcases h : e.summary? with _ | figures <;> simp [h]

theorem summaries_triggered (s : SwarmRun β) (reason : String) :
    (s.triggered reason).summaries = s.summaries := by
  unfold summaries triggered
  rcases s.latch.announced? reason with _ | r <;> rfl

theorem summaries_heardOf (s : SwarmRun β) (i : Nat) (rest : List Nat) :
    (s.heardOf i rest).summaries = s.summaries := by
  unfold summaries heardOf
  rcases s.exitOf? i with _ | n | e | message <;> rfl

/-- **A run that has returned has one line that sums it up**, with what it has heard and recorded,
    unless it broke down over its figures; before that it has none. -/
structure SumsUp (w : Surroundings β) (s : SwarmRun β) : Prop where
  before : s.stage.isReturned = false → s.summaries = []
  returned : ∀ time result, s.stage = .returned time result →
    (∃ elapsed r, s.stats.snapshot w.epoch elapsed = .ok r ∧ result = s.conclude r ∧
      s.summaries = [(s.tally.iterations, r.total.requests, r.total.failures)]) ∨
    (∃ message, result = .error (.crashed message)) ∧ s.summaries = []

namespace SumsUp

/-- Nothing happens to the line, nor to what it is made of once the run has returned. -/
theorem same (h : SumsUp w s) (stage : s'.stage = s.stage) (tally : s'.tally = s.tally)
    (summaries : s'.summaries = s.summaries)
    (still : s.stage.isReturned = true → s'.stats = s.stats ∧ s'.conclude = s.conclude) :
    SumsUp w s' := by
  refine ⟨fun hb => ?_, fun time result hst => ?_⟩
  · rw [summaries]; exact h.before (stage ▸ hb)
  · rw [stage] at hst
    obtain ⟨hstats, hconclude⟩ := still (by rw [hst]; rfl)
    rw [summaries, tally, hstats, hconclude]
    exact h.returned time result hst

/-- The run goes on. -/
theorem going (h : SumsUp w s) (before : s.stage.isReturned = false)
    (after : s'.stage.isReturned = false) (summaries : s'.summaries = s.summaries) :
    SumsUp w s' where
  before _ := summaries.trans (h.before before)
  returned _ _ hst := by rw [hst] at after; cases after

end SumsUp

variable [Behavior β] {settings : SwarmSettings} {latch : Latch} {start : Nat}

theorem Change.sumsUp (hc : Change w s s') (h : SumsUp w s)
    (ended : s.stage.isReturned = true → s.AllEnded) : SumsUp w s' := by
  have still : s.stage.isReturned = true → s'.stats = s.stats ∧ s'.conclude = s.conclude :=
    fun hr => ⟨(hc.still hr (ended hr)).2.1, (hc.still hr (ended hr)).2.2.1⟩
  cases hc with
  | report r stage unheard heard snapshot =>
    have hnone := h.before (by rw [stage]; rfl)
    refine ⟨fun hgoing => (by cases hgoing), fun time result hst => ?_⟩
    obtain ⟨rfl, rfl⟩ := Stage.returned.inj hst
    refine .inl ⟨_, r, snapshot, rfl, ?_⟩
    change (s.note _).summaries = _
    rw [summaries_note, hnone]
    rfl
  | noReport o stage =>
    have hnone := h.before (by rw [stage]; rfl)
    refine ⟨fun hgoing => (by cases hgoing), fun time result hst => ?_⟩
    obtain ⟨rfl, rfl⟩ := Stage.returned.inj hst
    exact .inr ⟨⟨_, rfl⟩, hnone⟩
  | spawn i stage =>
    refine h.going (by rw [stage]; rfl) ?_ rfl
    unfold SwarmRun.spawn; dsimp only; split_ifs <;> rfl
  | resumeSpawning i due stage => exact h.going (by rw [stage]; rfl) rfl rfl
  | endSpawning ready =>
    refine h.going ?_ rfl rfl
    rcases ready with ⟨i, stage, -⟩ | ⟨i, due, stage, -⟩ <;> (rw [stage]; rfl)
  | hear i rest stage =>
    have hgoing : s.stage.isReturned = false := by rcases stage with h | h <;> (rw [h]; rfl)
    exact h.going hgoing hgoing (summaries_heardOf s i rest)
  | endJoining stage => exact h.going (by rw [stage]; rfl) rfl (summaries_triggered s _)
  | timeout | trigger => exact h.same rfl rfl (summaries_triggered s _) still
  | _ => exact h.same rfl rfl rfl still

theorem leads_sumsUp (h : Leads w (.begin w settings latch start) s) : SumsUp w s :=
  h.induction (P := fun s => SumsUp w s)
    (fun _ _ hl hs hc => hc.sumsUp hs (ended_of_returned hl))
    (fun _ _ _ hs => hs.same rfl rfl rfl fun _ => ⟨rfl, rfl⟩)
    ⟨fun _ => rfl, fun _ _ hst => by cases hst⟩

/-! ## The summary -/

/-- **What the line that sums a run up says**: of the iterations that ended well, it counts those of
    the users that followed the stop. -/
structure Summary (s : SwarmRun β) (iterations requests : Nat) : Prop where
  /-- every user that was made has ended -/
  ended : ∀ i < s.made.length, (s.exitOf? i).isSome = true
  kept : iterations = ∑ i ∈ Finset.range s.made.length with s.followedStop i, s.iterationsOf i
  /-- the iterations of all other users are lost -/
  lost : s.goodIterations = iterations +
    ∑ i ∈ Finset.range s.made.length with ¬s.followedStop i, s.iterationsOf i
  /-- so nothing is lost if all other users came to no iteration, and only then -/
  eq_iff : iterations = s.goodIterations ↔
    ∀ i < s.made.length, s.followedStop i = false → s.iterationsOf i = 0
  /-- no request is lost -/
  requests : (∀ number, ¬s.Overflowed number) → requests = s.goodIterations

/-- **A run that has returned is summed up in one line**, which counts all requests, but only the
    iterations of the users that followed the stop; a run that broke down over its figures has no
    such line. -/
theorem returned_summary (w : Surroundings β) (settings : SwarmSettings) (latch : Latch)
    (start : Nat) (s : SwarmRun β) (h : Reaches w (.begin w settings latch start) s)
    (result : Except RunFailure StatsReport) (hresult : s.result? = some result) :
    (∃ iterations requests failures, s.summaries = [(iterations, requests, failures)] ∧
      Summary s iterations requests) ∨
    (∃ message, result = .error (.crashed message)) ∧ s.summaries = [] := by
  obtain ⟨time, hst⟩ := result?_eq_some_iff.1 hresult
  have hr : s.stage.isReturned = true := by rw [hst]; rfl
  have all := ended_of_returned h.leads hr
  have hu := unheard_of_returned h.leads hr
  have hb := leads_books h.leads
  have hcount := leads_counted h.leads
  refine ((leads_sumsUp h.leads).returned time result hst).imp_left ?_
  rintro ⟨elapsed, r, hsnap, -, hline⟩
  refine ⟨_, _, _, hline, ?_⟩
  obtain ⟨heard, ht⟩ := leads_told h.leads
  -- each user was heard of once
  have hsum : s.tally.iterations =
      ∑ i ∈ Finset.range s.made.length with s.followedStop i, s.iterationsOf i := by
    rw [ht.hears.iterations_eq, ((ht.perm hu all).map _).sum_eq, hb.balance.made,
      Finset.sum_filter, ← List.sum_toFinset _ List.nodup_range, List.toFinset_range]
    exact Finset.sum_congr rfl fun i _ => hcount.handedOver_eq i
  have hlost := Finset.sum_filter_add_sum_filter_not (Finset.range s.made.length)
    (fun i => s.followedStop i = true) s.iterationsOf
  rw [hcount.sum_iterationsOf hb, ← hsum] at hlost
  refine ⟨hb.balance.made ▸ all, hsum, hlost.symm, ?_, fun hno => (hb.figures hno hsnap).1⟩
  rw [← hlost, left_eq_add, Finset.sum_eq_zero_iff]
  simp

end

/-- The first user finds nothing at its second choice, and the second user goes on. -/
def firstFails : Surroundings (User Script) where
  make i := ⟨⟨["a", "b"]⟩, ⟨if i = 0 then [some 0, some 2] else [some 1], 0⟩⟩
  client _ _ := { outcome := .ok ⟨200, 5⟩, latency := 5 }

/-- The first user fails before the second one is made, which is stopped in its second request. -/
def stoppedAfterFailure : List Action :=
  [.poll .stage fun _ => true, .poll (.user 0) fun _ => true, .advance 5,
    .poll (.user 0) fun _ => true, .poll (.user 0) fun _ => true, .advance 1000,
    .poll .stage fun _ => true, .poll (.user 1) fun _ => true, .advance 1005,
    .poll (.user 1) fun _ => true, .poll (.user 1) fun _ => true, .trigger "interrupted",
    .poll (.user 1) fun _ => true, .poll .stage fun _ => true]

theorem returned_summary_firstFails :
    let s := run firstFails (.begin firstFails { users := 2 } {} 0) stoppedAfterFailure
    Reaches firstFails (.begin firstFails { users := 2 } {} 0) s ∧ (∃ result, s.result? = some result) ∧
      s.summaries = [(1, 2, 0)] ∧ Summary s 1 2 := by
  intro s
  have hr : Reaches firstFails (.begin firstFails { users := 2 } {} 0) s := run_reaches _ _
  have hline : s.summaries = [(1, 2, 0)] := by decide +kernel
  have hresult : ∃ result, s.result? = some result := Option.isSome_iff_exists.1 (by decide +kernel)
  refine ⟨hr, hresult, hline, ?_⟩
  obtain ⟨result, hresult⟩ := hresult
  rcases returned_summary _ _ _ _ s hr result hresult with ⟨k, n, f, hk, hs⟩ | ⟨-, hnone⟩
  · rw [hline] at hk
    cases hk
    exact hs
  · rw [hline] at hnone
    cases hnone

/-- A user that finds nothing at its second choice. -/
def secondChoiceFails : Surroundings (User Script) where
  make _ := ⟨.builtIn, ⟨[some 0, some 12], 0⟩⟩
  client _ _ := { outcome := .ok ⟨200, 2⟩, latency := 20 }

/-- The user completes a request, and fails. -/
def failedAfterOne : List Action :=
  [.poll .stage fun _ => true, .poll (.user 0) fun _ => true, .advance 20,
    .poll (.user 0) fun _ => true, .poll (.user 0) fun _ => true, .poll .stage fun _ => true]

/-- The line of such a run has the request, but not the iteration. -/
theorem summaries_failedAfterOne :
    let s := run secondChoiceFails (.begin secondChoiceFails { statsInterval := none } {} 0) failedAfterOne
    Reaches secondChoiceFails (.begin secondChoiceFails { statsInterval := none } {} 0) s ∧
      s.result? = some (.error (.allUsersFailed 1 (.indexOutOfRange 12 12))) ∧
      s.goodIterations = 1 ∧ s.summaries = [(0, 1, 0)] :=
  ⟨run_reaches _ _, by decide +kernel, by decide +kernel, by decide +kernel⟩

end SwarmRun

end LoadSwarm
