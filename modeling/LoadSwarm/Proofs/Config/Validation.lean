/-
  What the checks of a configuration and of the settings of a swarm accept.

  * `Check.require_eq_ok_iff`, `Check.bind_eq_ok_iff`, `Check.forM_eq_ok_iff`: single checks, and
    checks in turn.
  * `LoadShape.validate_eq_ok_iff`, `SwarmSettings.validate_eq_ok_iff`: both are about the same
    numbers, but written apart.
  * `LoadShape.validate_settings`: a good load shape makes good settings.
  * `Configuration.validated_eq_ok`, `Configuration.validated_eq_error`: whole configurations.
-/
import Mathlib
import LoadSwarm.Config.Layers
import LoadSwarm.Swarm.Settings

namespace LoadSwarm

theorem bind_eq_ok_iff {ε α γ : Type} {x : Except ε α} {f : α → Except ε γ} {b : γ} :
    x >>= f = .ok b ↔ ∃ a, x = .ok a ∧ f a = .ok b := by
  cases x with
  | error e => exact ⟨nofun, fun ⟨_, ha, _⟩ => nomatch ha⟩
  | ok a => exact ⟨fun h => ⟨a, rfl, h⟩, fun ⟨_, ha, h⟩ => by cases ha; exact h⟩

namespace Check

theorem require_eq_ok_iff {domain : String} {problem : FieldProblem} {ok : Bool} :
    require domain problem ok = .ok () ↔ ok = true := by
  unfold require; cases ok <;> simp

/-- Two checks in turn. -/
theorem bind_eq_ok_iff {a : Check} {b : Unit → Check} :
    a >>= b = .ok () ↔ a = .ok () ∧ b () = .ok () := by
  rw [LoadSwarm.bind_eq_ok_iff]
  exact ⟨fun ⟨_, ha, hb⟩ => ⟨ha, hb⟩, fun ⟨ha, hb⟩ => ⟨(), ha, hb⟩⟩

/-- One check for each of a list. -/
theorem forM_eq_ok_iff {α : Type} {f : α → Check} {as : List α} :
    as.forM f = .ok () ↔ ∀ a ∈ as, f a = .ok () := by
  induction as with
  | nil => exact ⟨nofun, fun _ => rfl⟩
  | cons a as ih =>
    rw [List.forall_mem_cons, ← ih]
    exact bind_eq_ok_iff

end Check

/-! ## The target -/

/-- The identifiers of an accepted target are not none. -/
theorem Target.validate_eq_ok_iff {t : Target} :
    t.validate = .ok () ↔ Check.url "target" "host" t.host = .ok () ∧
      ∀ ids, t.identifiers = some ids → ids ≠ [] ∧ ids.forM Target.checkIdentifier = .ok () := by
  unfold validate
  rw [Check.bind_eq_ok_iff]
  refine and_congr_right fun _ => ?_
  rcases t.identifiers with _ | ids
  · simp
  · simp only [Check.bind_eq_ok_iff, Check.require_eq_ok_iff, Option.some.injEq, forall_eq']
    simp

/-! ## The load -/

/-- Of two finite numbers, one is below the other if that one is not at most the first. -/
theorem Binary64.lt_eq {x y : Binary64} (hx : x.isFinite = true) (hy : y.isFinite = true) :
    x.lt y = !y.le x := by
  cases x with
  | nan | infinite => cases hx
  | finite s m =>
    cases y with
    | nan | infinite => cases hy
    | finite t n =>
      rw [Bool.eq_iff_iff]
      simp only [lt, le, Bool.and_eq_true, Bool.not_eq_true', decide_eq_true_eq,
        decide_eq_false_iff_not]
      omega

theorem LoadShape.validate_eq_ok_iff {s : LoadShape} :
    s.validate = .ok () ↔
      s.users.toNat ≠ 0 ∧ s.spawnRate.isFinite = true ∧ Binary64.zero.lt s.spawnRate = true ∧
        s.runTime ≠ some Duration.zero ∧ s.pacing.validate = .ok () := by
  have hrate : (!s.spawnRate.le Binary64.zero) = true ∧ s.spawnRate.isFinite = true ↔
      s.spawnRate.isFinite = true ∧ Binary64.zero.lt s.spawnRate = true := by
    rw [and_comm]
    exact and_congr_right fun hf => by rw [Binary64.lt_eq rfl hf]
  unfold validate Check.positiveNat Check.positiveFloat
  simp only [Check.bind_eq_ok_iff, Check.require_eq_ok_iff]
  rw [← and_assoc (a := (!s.spawnRate.le Binary64.zero) = true), hrate, and_assoc]
  rcases s.runTime with _ | d
  · simp [Check.bind_eq_ok_iff]
  · simp [Check.bind_eq_ok_iff, Check.require_eq_ok_iff]

theorem SwarmSettings.validate_eq_ok_iff {s : SwarmSettings} :
    s.validate = .ok () ↔
      s.users ≠ 0 ∧ s.spawnRate.isFinite = true ∧ Binary64.zero.lt s.spawnRate = true ∧
        s.runTime ≠ some Duration.zero ∧ s.statsInterval ≠ some Duration.zero := by
  unfold validate
  by_cases h1 : s.users = 0
  · simp [h1]
  by_cases h2 : s.spawnRate.isFinite = true ∧ Binary64.zero.lt s.spawnRate = true
  · by_cases h3 : s.runTime = some Duration.zero
    · simp [h1, h2, h3]
    · by_cases h4 : s.statsInterval = some Duration.zero <;> simp [h1, h2, h3, h4]
  · have h2' : (!(s.spawnRate.isFinite && Binary64.zero.lt s.spawnRate)) = true := by
      rcases hf : s.spawnRate.isFinite with _ | _
      · rfl
      · simpa [hf] using h2
    rw [if_neg h1, if_pos h2']
    exact ⟨nofun, fun h => absurd ⟨h.2.1, h.2.2.1⟩ h2⟩

/-- **A good load shape makes good settings**, with any other time between lines of progress that
    is some time. -/
theorem LoadShape.validate_settings {s : LoadShape} (h : s.validate = .ok ())
    {interval : Option Duration} (hi : interval ≠ some Duration.zero) :
    { SwarmSettings.ofShape s with statsInterval := interval }.validate = .ok () := by
  obtain ⟨hu, hf, hp, hr, -⟩ := LoadShape.validate_eq_ok_iff.1 h
  exact SwarmSettings.validate_eq_ok_iff.2 ⟨hu, hf, hp, hr, hi⟩

/-! ## Whole configurations -/

namespace Configuration

theorem validated_eq_ok {c c' : Configuration} :
    c.validated = .ok c' ↔ c' = c ∧ c'.validate = .ok () := by
  unfold validated
  rcases hv : c.validate with e | ⟨⟨⟩⟩
  · refine ⟨nofun, ?_⟩
    rintro ⟨rfl, h⟩
    rw [hv] at h; cases h
  · constructor
    · rintro ⟨⟩
      exact ⟨rfl, hv⟩
    · rintro ⟨rfl, -⟩
      rfl

theorem validated_eq_error {c : Configuration} {e : ConfigError} :
    c.validated = .error e ↔ ∃ problem, c.validate = .error problem ∧ e = .invalid problem := by
  unfold validated
  rcases c.validate with problem | ⟨⟨⟩⟩
  · simp [eq_comm]
  · simp

end Configuration

end LoadSwarm
