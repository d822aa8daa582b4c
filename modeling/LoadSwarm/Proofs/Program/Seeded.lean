/-
  The requests of a user are its own.

  * `LoadRun.user_eq`: with a seed, a user draws from the stream of the sum of the seed and its
    number.
  * `own_requests`: what a user requests in one run begins what it requests in any other one, and
    with a seed these are the identifiers that its stream draws.
-/
import LoadSwarm.Proofs.Program.Accepted
import LoadSwarm.Proofs.Swarm.Paths

namespace LoadSwarm

theorem LoadRun.user_eq {c : Configuration} {seed : UInt64} (h : c.swarm.seed = some seed)
    (chance : Nat → UInt64) (i : Nat) :
    LoadRun.user c chance i =
      ⟨Identifiers.ofTarget c.target,
        WordStream.ofSeed (UInt64.ofNat ((seed.toNat + i) % 2 ^ 64))⟩ := by
  have hsum : seed + UInt64.ofNat i = UInt64.ofNat ((seed.toNat + i) % 2 ^ 64) := by
    apply UInt64.toNat_inj.1
    simp [UInt64.toNat_add]
  unfold LoadRun.user LoadRun.seed
  rw [h]
  dsimp only
  rw [hsum]

open SwarmRun in
/-- **The requests of a user are its own.**  In any two runs in which it begins with the same
    identifiers and the same source, whatever else is different, what it requests in one of them
    begins what it requests in the other.  With a seed from the command line, its source is the
    stream of the sum of the seed and its number, and its requests are the paths of the identifiers
    that this stream draws. -/
theorem own_requests :
    (∀ {σ : Type} [IndexSource σ] (i : Nat) (w w' : Surroundings (User σ))
      (settings settings' : SwarmSettings) (latch latch' : Latch) (start start' : Nat)
      (s s' : SwarmRun (User σ)), w.make i = w'.make i →
      Reaches w (.begin w settings latch start) s → Reaches w' (.begin w' settings' latch' start') s' →
      pathsOf s.requests i <+: pathsOf s'.requests i ∨
        pathsOf s'.requests i <+: pathsOf s.requests i) ∧
    ∀ (base : Configuration) (o : RunOptions) (seed : UInt64), o.overrides.seed = some seed →
      ∀ (chance : Nat → UInt64) (i : Nat),
        let c := o.overrides.apply base
        let ids := Identifiers.ofTarget c.target
        let source := WordStream.ofSeed (UInt64.ofNat ((seed.toNat + i) % 2 ^ 64))
        LoadRun.user c chance i = ⟨ids, source⟩ ∧
        ∀ (w : Surroundings (User WordStream)), w.make i = LoadRun.user c chance i →
          ∀ (settings : SwarmSettings) (latch : Latch) (start : Nat)
            (s : SwarmRun (User WordStream)), Reaches w (.begin w settings latch start) s →
          ∀ (k : Nat) (path : String), (pathsOf s.requests i)[k]? = some path →
            ∃ n id, IndexSource.drawAt ids.size source k = .index n ∧ ids.toList[n]? = some id ∧
              path = Identifiers.path id := by
  refine ⟨fun i w w' _ _ _ _ _ _ s s' same h h' => pathsOf_comparable same h.leads h'.leads,
    fun base o seed hseed chance i => ?_⟩
  intro c ids source
  have hswarm : c.swarm.seed = some seed := by
    unfold c Overrides.apply
    rw [hseed]; rfl
  have huser : LoadRun.user c chance i = ⟨ids, source⟩ := LoadRun.user_eq hswarm chance i
  refine ⟨huser, fun w hmake settings latch start s h k path hk => ?_⟩
  have hmove := leads_move h.leads hk
  rw [hmake, huser] at hmove
  exact User.of_move_eq_request hmove

/-- Five users that choose from three identifiers. -/
def threeClusters : Configuration :=
  { fiveUsers with target := { fiveUsers.target with identifiers := some ["a", "b", "c"] } }

/-- The users of a seeded run, with a client that answers as it is told to. -/
def seededWorld (reply : Reply) : Surroundings (User WordStream) where
  make := LoadRun.user (seededRun.overrides.apply threeClusters) fun _ => 0
  client _ _ := reply

/-- The first user is made, and has some turns. -/
def firstTurns (turns : Nat) : List Action :=
  .poll .stage (fun _ => true) :: List.replicate turns (.poll (.user 0) fun _ => true)

open SwarmRun in
theorem own_requests_threeClusters :
    let c := seededRun.overrides.apply threeClusters
    let slow := seededWorld { outcome := .ok ⟨200, 5⟩, latency := 3 }
    let dead := seededWorld { outcome := .error (.network .connect) }
    let s := run slow (.begin slow (LoadRun.settings c seededRun) {} 0) (firstTurns 4)
    let s' := run dead (.begin dead {} {} 5) (firstTurns 4)
    pathsOf s.requests 0 = ["/clusters/b"] ∧
      pathsOf s'.requests 0 = ["/clusters/b", "/clusters/a", "/clusters/a", "/clusters/a"] ∧
      (pathsOf s.requests 0 <+: pathsOf s'.requests 0 ∨
        pathsOf s'.requests 0 <+: pathsOf s.requests 0) ∧
      ∃ n id, IndexSource.drawAt 3 (WordStream.ofSeed 7) 3 = .index n ∧ ["a", "b", "c"][n]? = some id ∧
        "/clusters/a" = Identifiers.path id := by
  intro c slow dead s s'
  have hs : pathsOf s.requests 0 = ["/clusters/b"] := by decide +kernel
  have hs' : pathsOf s'.requests 0 = ["/clusters/b", "/clusters/a", "/clusters/a", "/clusters/a"] := by
    decide +kernel
  have reach : Reaches slow (.begin slow (LoadRun.settings c seededRun) {} 0) s := run_reaches _ _
  have reach' : Reaches dead (.begin dead {} {} 5) s' := run_reaches _ _
  obtain ⟨comparable, seeded⟩ := own_requests
  refine ⟨hs, hs', comparable 0 slow dead _ _ _ _ _ _ s s' rfl reach reach', ?_⟩
  obtain ⟨-, draws⟩ := seeded threeClusters seededRun 7 rfl (fun _ => 0) 0
  exact draws dead rfl {} {} 5 s' reach' 3 "/clusters/a" (by rw [hs']; rfl)

end LoadSwarm
