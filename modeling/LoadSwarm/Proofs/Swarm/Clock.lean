/-
  Runs on the clock of their actions.

  * `act_cases`: an action makes changes at one moment, or it lets time pass, which it does only
    while every task waits, and no further than to the next time that a task waits for.
  * `run_induction`: what no change breaks, and no such passing of time, holds in every run of
    actions.
-/
import LoadSwarm.Proofs.Swarm.Change

namespace LoadSwarm

namespace SwarmRun

variable {β : Type} [Behavior β] {w : Surroundings β} {s s' : SwarmRun β}

/-! ## What changes leave alone -/

theorem Change.now_eq (h : Change w s s') : s'.now = s.now := by cases h <;> rfl

theorem Change.start_eq (h : Change w s s') : s'.start = s.start := by cases h <;> rfl

theorem Change.settings_eq (h : Change w s s') : s'.settings = s.settings := by cases h <;> rfl

theorem Change.clock_eq (h : Change w s s') : s'.clock = s.clock := by cases h <;> rfl

/-- The latch stays triggered. -/
theorem Change.isStopping (h : Change w s s') (hs : s.isStopping = true) :
    s'.isStopping = true := by
  cases h with
  | endJoining | timeout | trigger => exact Latch.isTriggered_trigger s.latch _
  | _ => exact hs

theorem Changes.induction {P : SwarmRun β → Prop}
    (change : ∀ s₁ s₂, Changes w s s₁ → P s₁ → Change w s₁ s₂ → P s₂) (h : Changes w s s')
    (hs : P s) : P s' := by
  induction h with
  | refl => exact hs
  | tail hcs hc ih => exact change _ _ hcs ih hc

theorem Changes.now_eq (h : Changes w s s') : s'.now = s.now :=
  h.induction (P := fun s' => s'.now = s.now) (fun _ _ _ hs hc => hc.now_eq.trans hs) rfl

theorem Leads.settings_eq (h : Leads w s s') : s'.settings = s.settings :=
  h.induction (P := fun s' => s'.settings = s.settings)
    (fun _ _ _ hs hc => hc.settings_eq.trans hs) (fun _ _ _ hs => hs) rfl

theorem Leads.clock_eq (h : Leads w s s') : s'.clock = s.clock :=
  h.induction (P := fun s' => s'.clock = s.clock) (fun _ _ _ hs hc => hc.clock_eq.trans hs)
    (fun _ _ _ hs => hs) rfl

theorem Leads.start_eq (h : Leads w s s') : s'.start = s.start :=
  h.induction (P := fun s' => s'.start = s.start) (fun _ _ _ hs hc => hc.start_eq.trans hs)
    (fun _ _ _ hs => hs) rfl

theorem Leads.isStopping (h : Leads w s s') (hs : s.isStopping = true) : s'.isStopping = true :=
  h.induction (P := fun s' => s'.isStopping = true) (fun _ _ _ hs hc => hc.isStopping hs)
    (fun _ _ _ hs => hs) hs

/-! ## Actions -/

omit [Behavior β] in
theorem foldl_min_le {l : List Nat} {d : Nat} (h : d ∈ l) (time : Nat) : l.foldl min time ≤ d := by
  have hle : ∀ (l : List Nat) (t : Nat), l.foldl min t ≤ t := by
    intro l
    induction l with
    | nil => exact fun t => Nat.le_refl t
    | cons e l ih => exact fun t => (ih _).trans (Nat.min_le_left t e)
  induction l generalizing time with
  | nil => cases h
  | cons e l ih =>
    rcases List.mem_cons.1 h with rfl | h
    · exact (hle l _).trans (Nat.min_le_right time d)
    · exact ih h _

/-- **An action makes changes, or lets time pass while every task waits**: up to a time that is
    not after any that a task waits for. -/
theorem act_cases (a : Action) :
    Changes w s (act w s a) ∨
      s.isIdle = true ∧ ∃ time, s.now ≤ time ∧ (∀ due ∈ s.dues, s.now ≤ due → time ≤ due) ∧
        act w s a = { s with now := time } := by
  cases a with
  | poll task first => exact .inl (poll_changes task first)
  | trigger reason =>
    unfold act; dsimp only; rw [trigger_eq]; exact .inl (.single (.trigger reason))
  | advance time =>
    unfold act advance; dsimp only
    split_ifs with h
    · refine .inr ⟨h, _, le_max_left _ _, fun due hd hle => ?_, rfl⟩
      exact max_le hle (foldl_min_le hd time)
    · exact .inl .refl

theorem run_append (s : SwarmRun β) (as bs : List Action) :
    run w s (as ++ bs) = run w (run w s as) bs := by unfold run; rw [List.foldl_append]

theorem run_concat (s : SwarmRun β) (as : List Action) (a : Action) :
    run w s (as ++ [a]) = act w (run w s as) a := by rw [run_append]; rfl

theorem run_leads (s : SwarmRun β) (as : List Action) : Leads w s (run w s as) :=
  (run_reaches s as).leads

/-- **What no change breaks, and no passing of time while every task waits, holds in every run.** -/
theorem run_induction {P : SwarmRun β → Prop}
    (change : ∀ s₁ s₂, Leads w s s₁ → P s₁ → Change w s₁ s₂ → P s₂)
    (pass : ∀ s₁ time, Leads w s s₁ → s₁.isIdle = true → s₁.now ≤ time →
      (∀ due ∈ s₁.dues, s₁.now ≤ due → time ≤ due) → P s₁ → P { s₁ with now := time })
    (hs : P s) (as : List Action) : P (run w s as) := by
  induction as using List.reverseRecOn with
  | nil => exact hs
  | append_singleton as a ih =>
    have hl := run_leads (w := w) s as
    rw [run_concat]
    rcases act_cases (w := w) (s := run w s as) a with h | ⟨hidle, time, hle, hdue, h⟩
    · exact h.induction (fun _ _ hcs => change _ _ (hl.trans hcs.leads)) ih
    · rw [h]; exact pass _ time hl hidle hle hdue ih

end SwarmRun

end LoadSwarm
