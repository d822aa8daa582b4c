/-
  No request of a run is lost or counted twice.

  * `SwarmRun.Completed`, `InFlight`, `Dropped`: the three fates of a request.
  * `Accounted w s`: every request has one fate, the completed ones are those recorded, and the
    counts of requests, iterations and figures agree.
  * `reaches_accounted`: every run is accounted for, whatever its client, the order and the pace
    of its tasks, and the moment of the stop.
-/
import LoadSwarm.Proofs.Swarm.Ledger
import LoadSwarm.Proofs.Swarm.Result

namespace LoadSwarm

/-! ## The figures of a report -/

theorem RequestStats.Describes.total_requests {s : RequestStats} {xs : List Recording}
    (h : s.Describes xs) {startedAt : Timestamp} {elapsed : Duration} {r : StatsReport}
    (hr : s.snapshot startedAt elapsed = .ok r) :
    r.total.requests = xs.length ∧ (r.entries.map (·.requests)).sum = xs.length := by
  obtain ⟨t, ht, rfl⟩ := RequestStats.snapshot_eq_ok_iff.1 hr
  refine ⟨(h.total ht).requests, ?_⟩
  have hlen : ∀ l : List (String × EntryStats), (∀ e ∈ l, e.2.Describes (requestsOf e.1 xs)) →
      ((l.map fun e => e.2.report "GET" e.1 elapsed).map (·.requests)).sum =
        (l.flatMap fun e => requestsOf e.1 xs).length := by
    intro l hl
    induction l with
    | nil => rfl
    | cons e l ih =>
      have he : (e.2.report "GET" e.1 elapsed).requests = (requestsOf e.1 xs).length :=
        (hl e (by simp)).requests
      simp only [List.map_cons, List.sum_cons, List.flatMap_cons, List.length_append, he,
        ih fun e' he' => hl e' (by simp [he'])]
  rw [← h.flatMap_perm.length_eq]
  exact hlen _ h.of_mem

namespace SwarmRun

variable {β : Type}

/-! ## The fates of requests -/

/-- The request with a number. -/
def request? (s : SwarmRun β) (number : Nat) : Option StartedRequest := requestAt s.requests number

/-- A request whose iteration ended well, and is the only one with it. -/
def Completed (s : SwarmRun β) (number : Nat) (r : StartedRequest) : Prop :=
  s.iterations.countP (·.request = some number) = 1 ∧
    ∃ it ∈ s.iterations, it.request = some number ∧ it.user = r.user ∧ it.start = r.time ∧
      it.failure = none

/-- A request whose user waits for the answer. -/
def InFlight (s : SwarmRun β) (number : Nat) (r : StartedRequest) : Prop :=
  ∃ t due outcome, s.users[r.user]? = some t ∧
    t.phase = .requesting number r.path r.time due outcome

/-- A request that its user gave up for the stop: no iteration has it. -/
def Dropped (s : SwarmRun β) (number : Nat) (r : StartedRequest) : Prop :=
  s.isStopping = true ∧ (∀ it ∈ s.iterations, it.request ≠ some number) ∧
    ∃ t iterations, s.users[r.user]? = some t ∧ t.phase = .ended (.stopped iterations)

/-- A request whose answer came, but a sum of the statistics left its range as it was recorded. -/
def Overflowed (s : SwarmRun β) (number : Nat) : Prop :=
  LoadSwarm.Overflowed s.users s.requests s.iterations number

/-- What is recorded of the iterations that ended well, in the order of their ends: the path of
    the request, the time it took, and the answer of the client. -/
def recordings (w : Surroundings β) (s : SwarmRun β) : List Recording :=
  LoadSwarm.recordings w s.requests s.iterations

/-- How many iterations ended well. -/
def goodIterations (s : SwarmRun β) : Nat := s.iterations.countP (·.failure = none)

/-- **No request is lost or counted twice.** -/
structure Accounted (w : Surroundings β) (s : SwarmRun β) : Prop where
  fate : ∀ number r, s.request? number = some r →
    s.Completed number r ∨ s.InFlight number r ∨ s.Dropped number r
  /-- a request has one fate -/
  apart : ∀ number r, (s.Completed number r → ¬s.InFlight number r) ∧
    (s.Completed number r → ¬s.Dropped number r) ∧ (s.Dropped number r → ¬s.InFlight number r)
  /-- an iteration ends well with a request that completed, or else it has none -/
  iteration : ∀ it ∈ s.iterations,
    (it.failure = none ∧ ∃ number r, it.request = some number ∧ s.request? number = some r ∧
      s.Completed number r ∧
      recordingOf w s.requests it = some ⟨r.path, Duration.ofMillis (it.finish - r.time),
        (w.client number r.path).outcome⟩) ∨
    (it.failure ≠ none ∧ it.request = none ∧ recordingOf w s.requests it = none)
  /-- every iteration that ended well is recorded once, and nothing else is -/
  recorded : recordAll RequestStats.recordOne {} (s.recordings w) = (s.stats, none)
  recordings_length : (s.recordings w).length = s.goodIterations
  one_in_flight : ∀ number r number' r', s.InFlight number r → s.InFlight number' r' →
    r.user = r'.user → number = number'
  none_in_flight : s.stage.isReturned = true → ∀ number r, ¬s.InFlight number r
  /-- all figures of requests count the iterations that ended well -/
  figures : ∀ startedAt elapsed report, s.stats.snapshot startedAt elapsed = .ok report →
    report.total.requests = s.goodIterations ∧
      (report.entries.map (·.requests)).sum = s.goodIterations
  result : ∀ time report, s.stage = .returned time (.ok report) →
    report.total.requests = s.goodIterations ∧
      (report.entries.map (·.requests)).sum = s.goodIterations
  users : (s.users.map (·.iterations)).sum = s.goodIterations
  started : s.goodIterations ≤ s.requests.length ∧
    s.requests.length ≤ s.goodIterations + s.made.length

/-! ## From the books -/

variable {w : Surroundings β} {s s' : SwarmRun β}

namespace Books

theorem completed_length (h : Books w s) : (completed s.iterations).length = s.goodIterations := by
  unfold completed goodIterations
  rw [List.length_filterMap_eq_countP]
  refine List.countP_congr fun it hit => ?_
  rcases hn : it.request with _ | number
  · simpa using h.ledger.failed it hit hn
  · simpa using (h.ledger.done it hit number hn).1

theorem recordingOf_done (h : Books w s) {it : FinishedIteration} (hit : it ∈ s.iterations)
    {number : Nat} (hn : it.request = some number) {r : StartedRequest}
    (hr : s.request? number = some r) :
    recordingOf w s.requests it = some ⟨r.path, Duration.ofMillis (it.finish - r.time),
      (w.client number r.path).outcome⟩ := by
  obtain ⟨-, path, hr'⟩ := h.ledger.done it hit number hn
  unfold request? at hr
  rw [hr] at hr'; cases hr'
  simp [recordingOf, hn, hr]

theorem recordings_length (h : Books w s) : (s.recordings w).length = s.goodIterations := by
  unfold recordings LoadSwarm.recordings goodIterations
  rw [List.length_filterMap_eq_countP, List.countP_reverse]
  refine List.countP_congr fun it hit => ?_
  rcases hn : it.request with _ | number
  · simpa [recordingOf, hn] using h.ledger.failed it hit hn
  · obtain ⟨hf, path, hr⟩ := h.ledger.done it hit number hn
    simp [h.recordingOf_done hit hn hr, hf]

/-- A number among the completed ones has one iteration, which is that of its request. -/
theorem completed_of_mem (h : Books w s) {number : Nat} {r : StartedRequest}
    (hr : s.request? number = some r) (hn : number ∈ completed s.iterations) :
    s.Completed number r := by
  refine ⟨?_, ?_⟩
  · have hcount : s.iterations.countP (·.request = some number) =
        (completed s.iterations).count number := by
      unfold completed
      rw [List.count, List.countP_filterMap]
      refine List.countP_congr fun it _ => ?_
      rcases it.request with _ | n <;> simp
    rw [hcount]
    exact List.count_eq_one_of_mem h.ledger.once hn
  · obtain ⟨it, hit, hreq⟩ := mem_completed.1 hn
    obtain ⟨hf, path, hr'⟩ := h.ledger.done it hit number hreq
    unfold request? at hr
    rw [hr] at hr'; cases hr'
    exact ⟨it, hit, hreq, rfl, rfl, hf⟩

theorem fate (h : Books w s) (hno : ∀ number, ¬s.Overflowed number) {number : Nat}
    {r : StartedRequest} (hr : s.request? number = some r) :
    s.Completed number r ∨ s.InFlight number r ∨ s.Dropped number r := by
  by_cases hn : number ∈ completed s.iterations
  · exact .inl (h.completed_of_mem hr hn)
  obtain ⟨t, user, hold⟩ := (h.ledger.rest hr).resolve_left hn
  right
  cases hp : t.phase with
  | requesting n path since due outcome =>
    rw [hp] at hold
    obtain ⟨rfl, rfl, rfl⟩ := hold
    exact .inl ⟨t, due, outcome, user, hp⟩
  | ended exit =>
    cases exit with
    | stopped k =>
      rw [hp] at hold
      exact .inr ⟨hold, fun it hit he => hn (mem_completed.2 ⟨it, hit, he⟩), t, k, user, hp⟩
    | crashed message =>
      rw [hp] at hold
      obtain ⟨o, rfl⟩ := hold
      exact (hno number ⟨r, t, o, hr, hn, user, hp⟩).elim
    | failed e => rw [hp] at hold; exact hold.elim
  | starting | yielding | waiting due => rw [hp] at hold; exact hold.elim

/-- The books determine the statistics up to sums that left their range. -/
theorem describes (h : Books w s) (hno : ∀ number, ¬s.Overflowed number) :
    recordAll RequestStats.recordOne {} (s.recordings w) = (s.stats, none) :=
  h.recorded.resolve_left fun ⟨number, ho⟩ => hno number ho

theorem figures (h : Books w s) (hno : ∀ number, ¬s.Overflowed number) {startedAt : Timestamp}
    {elapsed : Duration} {report : StatsReport}
    (hr : s.stats.snapshot startedAt elapsed = .ok report) :
    report.total.requests = s.goodIterations ∧
      (report.entries.map (·.requests)).sum = s.goodIterations := by
  rw [← h.recordings_length]
  exact (RequestStats.recordAll_describes (h.describes hno)).total_requests hr

end Books

variable [Behavior β]

omit [Behavior β] in
theorem eq_of_conclude {r report : StatsReport} (h : s.conclude r = .ok report) : r = report := by
  unfold conclude at h
  split at h
  · cases h; rfl
  · split_ifs at h; cases h; rfl

/-- **No request of a run is lost or counted twice**, for any client, any order and pace of the
    tasks, and any moment of the stop, as long as no sum of the statistics leaves its range. -/
theorem reaches_accounted (w : Surroundings β) (settings : SwarmSettings) (latch : Latch)
    (start : Nat) (s : SwarmRun β) (h : Reaches w (.begin w settings latch start) s)
    (hno : ∀ number, ¬s.Overflowed number) : Accounted w s := by
  have hb := leads_books h.leads
  refine
    { fate := fun number r hr => hb.fate hno hr
      apart := fun number r => ⟨?_, ?_, ?_⟩
      iteration := fun it hit => ?_
      recorded := hb.describes hno
      recordings_length := hb.recordings_length
      one_in_flight := ?_
      none_in_flight := ?_
      figures := fun _ _ _ => hb.figures hno
      result := ?_
      users := hb.balance.counted.trans hb.completed_length
      started := hb.completed_length ▸ ⟨hb.ledger.completed_length_le, hb.balance.le_made⟩ }
  · rintro ⟨-, it, hit, hn, -⟩ ⟨t, due, outcome, user, phase⟩
    exact (hb.ledger.flight user phase).2.2 (mem_completed.2 ⟨it, hit, hn⟩)
  · rintro ⟨-, it, hit, hn, -⟩ ⟨-, hnone, -⟩
    exact hnone it hit hn
  · rintro ⟨-, -, t, k, user, phase⟩ ⟨t', due, outcome, user', phase'⟩
    rw [user] at user'; cases user'
    rw [phase] at phase'; cases phase'
  · rcases hn : it.request with _ | number
    · exact .inr ⟨hb.ledger.failed it hit hn, rfl, by simp [recordingOf, hn]⟩
    · obtain ⟨hf, path, hr⟩ := hb.ledger.done it hit number hn
      exact .inl ⟨hf, number, _, rfl, hr,
        hb.completed_of_mem hr (mem_completed.2 ⟨it, hit, hn⟩), hb.recordingOf_done hit hn hr⟩
  · rintro number r number' r' ⟨t, _, _, user, phase⟩ ⟨t', _, _, user', phase'⟩ hu
    rw [hu, user'] at user; cases user
    rw [phase] at phase'; exact (UserPhase.requesting.inj phase').1
  · rintro hret number r ⟨t, _, _, user, phase⟩
    exact (ended_of_returned h.leads hret).not_alive user
      (UserTask.exit?_eq_none_of_requesting phase)
  · intro time report hst
    rcases leads_result h.leads time _ hst with ⟨elapsed, r, hsnap, hr⟩ | ⟨o, -, hr⟩
    · exact hb.figures hno (eq_of_conclude hr.symm ▸ hsnap)
    · cases hr

/-- A user that asks for two paths in turn, of which the first one answers at once. -/
def twoPaths : Surroundings (User Script) where
  make _ := ⟨⟨["a", "b"]⟩, ⟨[some 0, some 1], 0⟩⟩
  client number _ := { outcome := .ok ⟨200, 5⟩, latency := 5 * number }

/-- The user completes a request, and is stopped in the middle of the next one. -/
def stoppedInFlight : List Action :=
  [.poll .stage fun _ => true, .poll (.user 0) fun _ => true, .poll (.user 0) fun _ => true,
    .trigger "interrupted", .poll (.user 0) fun _ => true, .poll .stage fun _ => true]

theorem reaches_accounted_stoppedInFlight :
    let s := run twoPaths (.begin twoPaths {} {} 0) stoppedInFlight
    Reaches twoPaths (.begin twoPaths {} {} 0) s ∧ (∀ number, ¬s.Overflowed number) ∧
      Accounted twoPaths s := by
  intro s
  have hr : Reaches twoPaths (.begin twoPaths {} {} 0) s := run_reaches _ _
  have hno : ∀ number, ¬s.Overflowed number := by
    rintro number ⟨r, t, o, -, -, user, phase⟩
    have hu : s.users = [⟨⟨⟨["a", "b"]⟩, ⟨[some 0, some 1], 2⟩⟩, .ended (.stopped 1), 1⟩] := rfl
    rw [hu] at user
    cases List.mem_singleton.1 (List.mem_of_getElem? user)
    cases phase
  exact ⟨hr, hno, reaches_accounted twoPaths {} {} 0 s hr hno⟩

end SwarmRun

end LoadSwarm
