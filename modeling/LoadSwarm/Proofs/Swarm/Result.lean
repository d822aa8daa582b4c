/-
  The result of a run.

  * `ResultOf w s`: a run that has returned has the result that follows from its figures and from
    the ends of its users.
  * `leads_result`: every run that has returned has that result, and it was stopped.
-/
import LoadSwarm.Proofs.Stats.Requests
import LoadSwarm.Proofs.Swarm.Ends

namespace LoadSwarm

namespace SwarmRun

variable {β : Type} {w : Surroundings β} {s s' : SwarmRun β}

/-- A result that was returned follows from the statistics and the ends of the users. -/
def ResultOf (w : Surroundings β) (s : SwarmRun β) : Prop :=
  ∀ time result, s.stage = .returned time result →
    (∃ elapsed report, s.stats.snapshot w.epoch elapsed = .ok report ∧ result = s.conclude report) ∨
      ∃ o, s.stats.total = .error o ∧ result = .error (.crashed o.message)

variable [Behavior β] {settings : SwarmSettings} {latch : Latch} {start : Nat}

theorem Change.resultOf (hc : Change w s s') (h : ResultOf w s)
    (ended : s.stage.isReturned = true → s.AllEnded) : ResultOf w s' := by
  intro time result hst
  rcases hc.return_cases hst with hold | hret
  · have hr : s.stage.isReturned = true := by rw [hold]; rfl
    obtain ⟨-, hstats, hconclude, -⟩ := hc.still hr (ended hr)
    rw [hstats, hconclude]
    exact h time result hold
  · rw [hret.stats, hret.conclude]
    rcases hret.result with ⟨report, hsnap, hres⟩ | ⟨o, hsnap, hres⟩
    · exact .inl ⟨_, report, hsnap, hres⟩
    · exact .inr ⟨o, RequestStats.snapshot_eq_error_iff.1 hsnap, hres⟩

/-- **A run that has returned has the result of its figures and of the ends of its users.** -/
theorem leads_result (h : Leads w (.begin w settings latch start) s) : ResultOf w s :=
  h.induction (P := fun s => ResultOf w s)
    (fun _ _ hl hs hc => hc.resultOf hs (ended_of_returned hl)) (fun _ _ _ hs => hs)
    fun _ _ hst => by cases hst

/-- A run that has returned was stopped. -/
theorem stopping_of_returned (h : Leads w (.begin w settings latch start) s)
    (hr : s.stage.isReturned = true) : s.isStopping = true := by
  have hafter : s.stage = .draining ∨ s.stage.isReturned = true → s.isStopping = true := by
    refine h.induction
      (P := fun s => s.stage = .draining ∨ s.stage.isReturned = true → s.isStopping = true)
      (fun s s' _ hs hc => ?_) (fun _ _ _ hs => hs) (by rintro (h | h) <;> cases h)
    cases hc with
    | spawn i _ _ _ =>
      unfold SwarmRun.spawn; dsimp only; split_ifs <;> (rintro (h | h) <;> cases h)
    | resumeSpawning | endSpawning => rintro (h | h) <;> cases h
    | endJoining | timeout | trigger => exact fun _ => Latch.isTriggered_trigger s.latch _
    | report r stage | noReport o stage => exact fun _ => hs (.inl stage)
    | _ => exact hs
  exact hafter (.inr hr)

end SwarmRun

end LoadSwarm
