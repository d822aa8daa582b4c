/-
  When a run has no report.

  * `Told.perm`, `Leads.failures_grow`: a run that has returned has heard of every user once, and
    what was told of failures is not taken back.
  * `conclude_cases`: the result that follows from the failures that the run has heard of.
  * `AllFailed s`: some users were made, and all of them have failed.
  * `FailedFirst w s₀ s i e`: a user has failed, and none ended before it.
  * `Verdict`, `returned_verdict`: a run fails if all its users failed, and only then; its error is
    that of the user that failed first.
-/
import LoadSwarm.Proofs.Swarm.Ledger
import LoadSwarm.Proofs.Swarm.Stop

namespace LoadSwarm

namespace SwarmRun

variable {β : Type} {w : Surroundings β} {s s' : SwarmRun β}

/-- With all users ended and nobody waiting to be heard of, each user was heard of once. -/
theorem Told.perm {heard : List Nat} (h : Told s heard) (hu : s.unheard = []) (all : s.AllEnded) :
    heard.Perm (List.range s.users.length) := by
  have hnodup := h.hears.nodup
  have hmem := h.hears.mem_iff
  rw [hu, List.append_nil] at hnodup hmem
  refine (List.perm_ext_iff_of_nodup hnodup List.nodup_range).2 fun i => ?_
  rw [hmem, List.mem_range]
  exact ⟨lt_of_exitOf?, all i⟩

/-! ## The result -/

theorem result?_eq_some_iff {result : Except RunFailure StatsReport} :
    s.result? = some result ↔ ∃ time, s.stage = .returned time result := by
  unfold result?; cases s.stage <;> simp

/-- The run has no report if it has heard of a failure for every user. -/
theorem conclude_cases (s : SwarmRun β) (report : StatsReport) :
    (∃ e, s.tally.failures.head? = some e ∧ s.tally.failures.length = s.users.length ∧
      s.conclude report = .error (.allUsersFailed s.users.length e)) ∨
      (s.tally.failures = [] ∨ s.tally.failures.length ≠ s.users.length) ∧
        s.conclude report = .ok report := by
  unfold conclude
  rcases s.tally.failures with _ | ⟨e, es⟩
  · exact .inr ⟨.inl rfl, rfl⟩
  · dsimp only
    split_ifs with hlen
    · exact .inl ⟨e, rfl, hlen, rfl⟩
    · exact .inr ⟨.inr hlen, rfl⟩

/-- Some users were made, and all of them have failed. -/
def AllFailed (s : SwarmRun β) : Prop :=
  s.made ≠ [] ∧ ∀ i < s.made.length, ∃ e, s.exitOf? i = some (.failed e)

theorem Told.allFailed_iff {heard : List Nat} (h : Told s heard) (hu : s.unheard = [])
    (all : s.AllEnded) (hmade : s.made.length = s.users.length) :
    s.AllFailed ↔ s.tally.failures ≠ [] ∧ s.tally.failures.length = s.users.length := by
  have hperm := h.perm hu all
  have hlen : heard.length = s.users.length := by rw [hperm.length_eq, List.length_range]
  have hall : s.tally.failures.length = s.users.length ↔
      ∀ i < s.users.length, ∃ e, s.exitOf? i = some (.failed e) := by
    rw [h.hears.failures_eq, ← hlen, List.filterMap_length_eq_length, hlen]
    refine forall_congr' fun i => ?_
    rw [hperm.mem_iff, List.mem_range]
    refine imp_congr_right fun _ => ?_
    simp only [Option.isSome_iff_exists, Option.bind_eq_some_iff, UserExit.error?_eq_some_iff,
      exists_eq_right]
  unfold AllFailed
  rw [hmade, ← hall]
  refine and_congr_left fun hl => ?_
  rw [← List.length_pos_iff, ← List.length_pos_iff, hmade, hl]

variable [Behavior β] {settings : SwarmSettings} {latch : Latch} {start : Nat}

/-! ## The first failure -/

/-- What was told is not taken back. -/
theorem Leads.failures_grow (h : Leads w s s') : failuresOf s.events <+: failuresOf s'.events := by
  refine h.induction (P := fun s' => failuresOf s.events <+: failuresOf s'.events)
    (fun s₁ s₂ _ hs hc => ?_) (fun _ _ _ hs => hs) (List.prefix_refl _)
  cases hc.end_cases with
  | same _ _ _ failures | hears _ _ _ _ _ _ failures => rw [failures]; exact hs
  | ends _ _ _ _ _ _ failures => rw [failures]; exact hs.trans (List.prefix_append _ _)

/-- A user has failed, and none ended before it: whenever some user had ended on the way to the
    present state, this one had. -/
structure FailedFirst (w : Surroundings β) (s₀ s : SwarmRun β) (i : Nat) (e : UserError) :
    Prop where
  failed : s.exitOf? i = some (.failed e)
  first : ∀ s', Reaches w s₀ s' → Reaches w s' s → (∃ j, (s'.exitOf? j).isSome = true) →
    s'.exitOf? i = some (.failed e)

/-- If all users failed, the one that is told of first failed before all others ended. -/
theorem failedFirst_of_told (h : Reaches w (.begin w settings latch start) s)
    (all : ∀ i < s.users.length, ∃ e, s.exitOf? i = some (.failed e)) {i : Nat} {e : UserError}
    (hfirst : (failuresOf s.events).head? = some (i, e)) :
    FailedFirst w (.begin w settings latch start) s i e where
  failed := by
    obtain ⟨heard, ht⟩ := leads_told h.leads
    exact ht.mem_iff.1 (List.mem_of_head? hfirst)
  first s' h' hs' := by
    rintro ⟨j, hj⟩
    obtain ⟨heard, ht⟩ := leads_told h'.leads
    obtain ⟨exit, hexit⟩ := Option.isSome_iff_exists.1 hj
    have hkeep := hs'.leads.exitOf? hexit
    obtain ⟨e', he'⟩ := all j (lt_of_exitOf? (by rw [hkeep]; rfl))
    rw [hkeep] at he'
    cases he'
    -- so a failure was told of before, and the first one is the first one of all
    have hmem := ht.mem_iff.2 hexit
    obtain ⟨later, hlater⟩ := hs'.leads.failures_grow
    rw [← hlater, List.head?_append_of_ne_nil _ (List.ne_nil_of_mem hmem)] at hfirst
    exact ht.mem_iff.1 (List.mem_of_head? hfirst)

/-! ## The verdict -/

/-- Every user that was made has ended, and the run has heard of each of them once. -/
def Collected (s : SwarmRun β) : Prop :=
  (∀ i < s.made.length, (s.exitOf? i).isSome = true) ∧
    ∃ heard : List Nat, heard.Perm (List.range s.made.length) ∧
      s.tally = heard.foldl (fun t i => t.hear (s.exitOf? i)) {}

/-- **What a run returns.** -/
structure Verdict (w : Surroundings β) (s₀ s : SwarmRun β)
    (result : Except RunFailure StatsReport) : Prop where
  /-- the run fails if all its users failed, and only then -/
  failed_iff : (∃ users first, result = .error (.allUsersFailed users first)) ↔ s.AllFailed
  /-- the error counts the users that were made, and is that of the user that ended first -/
  source : ∀ users first, result = .error (.allUsersFailed users first) →
    users = s.made.length ∧ ∃ i < users, FailedFirst w s₀ s i first
  /-- in every other case there is a report of the figures -/
  report : ¬s.AllFailed →
    ∃ elapsed r, s.stats.snapshot w.epoch elapsed = .ok r ∧ result = .ok r
  collected : s.Collected

/-- **A run fails if all its users failed, and only then**, with the error of the one that failed
    first; whatever the order and the pace of its tasks, it hears of each user once. -/
theorem returned_verdict (w : Surroundings β) (settings : SwarmSettings) (latch : Latch)
    (start : Nat) (s : SwarmRun β) (h : Reaches w (.begin w settings latch start) s)
    (result : Except RunFailure StatsReport) (hresult : s.result? = some result)
    (hret : ∀ message, result ≠ .error (.crashed message)) :
    Verdict w (.begin w settings latch start) s result := by
  obtain ⟨time, hst⟩ := result?_eq_some_iff.1 hresult
  have hr : s.stage.isReturned = true := by rw [hst]; rfl
  have all := ended_of_returned h.leads hr
  have hu := unheard_of_returned h.leads hr
  have hmade := (leads_books h.leads).balance.made
  obtain ⟨heard, ht⟩ := leads_told h.leads
  have hiff := ht.allFailed_iff hu all hmade
  have collected : s.Collected := by
    unfold Collected; rw [hmade]
    exact ⟨all, heard, ht.perm hu all, ht.hears.tally⟩
  rcases leads_result h.leads time result hst with ⟨elapsed, r, hsnap, rfl⟩ | ⟨o, -, rfl⟩
  · rcases s.conclude_cases r with ⟨e, hhead, hlen, hres⟩ | ⟨hnot, hres⟩
    · -- a failure for every user
      have hfailed : s.AllFailed := hiff.2 ⟨List.ne_nil_of_mem (List.mem_of_head? hhead), hlen⟩
      obtain ⟨⟨i, e'⟩, hfirst, rfl⟩ : ∃ p, (failuresOf s.events).head? = some p ∧ p.2 = e := by
        rw [ht.failures_eq hu, List.head?_map, Option.map_eq_some_iff] at hhead
        exact hhead
      have hfirst' := failedFirst_of_told h (hmade ▸ hfailed.2) hfirst
      refine ⟨⟨fun _ => hfailed, fun _ => ⟨_, _, hres⟩⟩, fun users first heq => ?_,
        fun hno => absurd hfailed hno, collected⟩
      rw [hres] at heq
      cases heq
      exact ⟨hmade.symm, i, lt_of_exitOf? (by rw [hfirst'.failed]; rfl), hfirst'⟩
    · -- a user that has not failed, or no users
      have hnone : ¬s.AllFailed := fun hfailed => by
        obtain ⟨hne, hlen⟩ := hiff.1 hfailed
        exact hnot.elim hne fun hne' => hne' hlen
      refine ⟨⟨?_, fun hfailed => absurd hfailed hnone⟩, fun users first heq => ?_,
        fun _ => ⟨elapsed, r, hsnap, hres⟩, collected⟩
      · rintro ⟨users, first, heq⟩; rw [hres] at heq; cases heq
      · rw [hres] at heq; cases heq
  · exact absurd rfl (hret o.message)

/-- Users with nothing to choose from. -/
def nothingToRequest : Surroundings (User Script) where
  make _ := ⟨⟨[]⟩, ⟨[], 0⟩⟩
  client _ _ := { outcome := .ok ⟨200, 5⟩ }

/-- Two of three users are made and fail, and the stop comes before the third one. -/
def stoppedAfterTwo : List Action :=
  [.poll .stage fun _ => true, .poll (.user 0) fun _ => true, .advance 5000,
    .poll .stage fun _ => true, .poll (.user 1) fun _ => true, .trigger "interrupted",
    .poll .stage fun _ => true]

theorem returned_verdict_twoOfThree :
    let s := run nothingToRequest (.begin nothingToRequest { users := 3 } {} 0) stoppedAfterTwo
    s.result? = some (.error (.allUsersFailed 2 .nothingToChoose)) ∧
      Verdict nothingToRequest (.begin nothingToRequest { users := 3 } {} 0) s
        (.error (.allUsersFailed 2 .nothingToChoose)) := by
  intro s
  have hresult : s.result? = some (.error (.allUsersFailed 2 .nothingToChoose)) := by
    decide +kernel
  exact ⟨hresult, returned_verdict _ _ _ _ s (run_reaches _ _) _ hresult nofun⟩

end SwarmRun

end LoadSwarm
