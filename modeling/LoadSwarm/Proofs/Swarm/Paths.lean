/-
  The paths that a user requests are its own.

  * `pathsOf requests i`: the paths that a user has requested, in order.
  * `Follows b paths t`: the requests of a user are its first moves, one for each, and a user that
    has not ended goes on from there.
  * `Change.followed`: every change keeps this for all users; `leads_followed`: so it holds in
    every run.
  * `pathsOf_comparable`: what a user requests in one run begins what it requests in another one.
-/
import LoadSwarm.Proofs.Swarm.Ends
import LoadSwarm.Proofs.Users.Moves

namespace LoadSwarm

/-! ## Paths -/

/-- The paths that a user has requested, in order, of requests with the last one first. -/
def pathsOf (requests : List StartedRequest) (i : Nat) : List String :=
  (requests.reverse.filter fun r => r.user = i).map (·.path)

theorem pathsOf_cons_self (time i : Nat) (path : String) (requests : List StartedRequest) :
    pathsOf (⟨time, i, path⟩ :: requests) i = pathsOf requests i ++ [path] := by
  simp [pathsOf]

theorem pathsOf_cons_of_ne {i j : Nat} (h : i ≠ j) (time : Nat) (path : String)
    (requests : List StartedRequest) :
    pathsOf (⟨time, i, path⟩ :: requests) j = pathsOf requests j := by
  simp [pathsOf, h]

/-- **The requests of a user are its first moves**, and a user that has not ended goes on from
    there. -/
structure Follows {β : Type} [Behavior β] (b : β) (paths : List String) (t : UserTask β) :
    Prop where
  moves : paths.map Move.request = (List.range paths.length).map (Behavior.move b)
  next : t.exit? = none → t.behavior = Behavior.after b paths.length

namespace Follows
variable {β : Type} [Behavior β] {b b' : β} {paths : List String} {t t' : UserTask β}

theorem start (b : β) : Follows b [] { behavior := b } := ⟨rfl, fun _ => rfl⟩

/-- One more request is the next move. -/
theorem request (h : Follows b paths t) (alive : t.exit? = none) {path : String}
    (move : Behavior.next t.behavior = (.request path, b')) (phase : UserPhase) :
    Follows b (paths ++ [path]) { t with behavior := b', phase := phase } := by
  have hmove : Behavior.move b paths.length = .request path := by
    unfold Behavior.move; rw [← h.next alive, move]
  have hnext : Behavior.after b (paths.length + 1) = b' := by
    unfold Behavior.after; rw [← h.next alive, move]
  refine ⟨?_, fun _ => ?_⟩
  · rw [List.map_append, h.moves, List.length_append, List.length_singleton, List.range_succ,
      List.map_append, List.map_singleton, List.map_singleton, hmove]
  · rw [List.length_append, List.length_singleton, hnext]

/-- A user that goes on without a move, or ends. -/
theorem leave (h : Follows b paths t) (alive : t.exit? = none)
    (same : t'.exit? = none → t'.behavior = t.behavior) : Follows b paths t' :=
  ⟨h.moves, fun alive' => (same alive').trans (h.next alive)⟩

theorem move_eq (h : Follows b paths t) {k : Nat} {path : String} (hk : paths[k]? = some path) :
    Behavior.move b k = .request path := by
  obtain ⟨hlt, rfl⟩ := List.getElem?_eq_some_iff.1 hk
  have := congrArg (·[k]?) h.moves
  simpa [hlt] using this.symm

end Follows

/-- The number of the user that is made next, as long as users are made. -/
def Stage.next? : Stage → Option Nat
  | spawning i | pausing i _ => some i
  | joining | draining | returned .. => none

/-- All users follow their moves, and those that are not made have no requests. -/
structure Followed {β : Type} [Behavior β] (w : Surroundings β) (users : List (UserTask β))
    (requests : List StartedRequest) (stage : Stage) : Prop where
  user : ∀ i t, users[i]? = some t → Follows (w.make i) (pathsOf requests i) t
  unmade : ∀ i, users.length ≤ i → pathsOf requests i = []
  next : ∀ i, stage.next? = some i → i = users.length

namespace Followed
variable {β : Type} [Behavior β] {w : Surroundings β} {users : List (UserTask β)}
  {requests : List StartedRequest} {stage : Stage} {i : Nat} {t t' : UserTask β}

theorem request (h : Followed w users requests stage) (user : users[i]? = some t)
    (alive : t.exit? = none) {path : String} {b : β}
    (move : Behavior.next t.behavior = (.request path, b)) (phase : UserPhase) (time : Nat) :
    Followed w (users.set i { t with behavior := b, phase := phase })
      (⟨time, i, path⟩ :: requests) stage where
  user j u hu := by
    rw [getElem?_set_of_some user] at hu
    split_ifs at hu with hij
    · cases hu; subst hij
      rw [pathsOf_cons_self]
      exact (h.user i t user).request alive move phase
    · rw [pathsOf_cons_of_ne hij]
      exact h.user j u hu
  unmade j hj := by
    rw [List.length_set] at hj
    have hi := (List.getElem?_eq_some_iff.1 user).1
    rw [pathsOf_cons_of_ne (by omega)]
    exact h.unmade j hj
  next := by rw [List.length_set]; exact h.next

theorem leave (h : Followed w users requests stage) (user : users[i]? = some t)
    (alive : t.exit? = none) (same : t'.exit? = none → t'.behavior = t.behavior) :
    Followed w (users.set i t') requests stage where
  user j u hu := by
    rw [getElem?_set_of_some user] at hu
    split_ifs at hu with hij
    · cases hu; subst hij
      exact (h.user i t user).leave alive same
    · exact h.user j u hu
  unmade j hj := h.unmade j (by rwa [List.length_set] at hj)
  next := by rw [List.length_set]; exact h.next

/-- A user ends. -/
theorem end_ (h : Followed w users requests stage) (user : users[i]? = some t)
    (alive : t.exit? = none) {b : β} {iterations : Nat} {exit : UserExit} :
    Followed w (users.set i { behavior := b, phase := .ended exit, iterations := iterations })
      requests stage :=
  h.leave user alive nofun

theorem spawn (h : Followed w users requests (.spawning i)) {stage : Stage}
    (hnext : ∀ j, stage.next? = some j → j = i + 1) :
    Followed w (users ++ [{ behavior := w.make i }]) requests stage := by
  obtain rfl := h.next i rfl
  refine ⟨fun j u hu => ?_, fun j hj => h.unmade j ?_, fun j hj => ?_⟩
  · rcases lt_trichotomy j users.length with hj | rfl | hj
    · rw [List.getElem?_append_left hj] at hu
      exact h.user j u hu
    · simp only [List.getElem?_concat_length, Option.some.injEq] at hu
      subst hu
      rw [h.unmade _ (Nat.le_refl _)]
      exact .start _
    · rw [List.getElem?_eq_none_iff.2 (by simp; omega)] at hu
      cases hu
  · rw [List.length_append] at hj; omega
  · rw [hnext j hj]; simp

theorem toStage (h : Followed w users requests stage) {stage' : Stage}
    (hnext : ∀ i, stage'.next? = some i → stage.next? = some i) :
    Followed w users requests stage' :=
  ⟨h.user, h.unmade, fun i hi => h.next i (hnext i hi)⟩

end Followed

namespace SwarmRun

variable {β : Type} [Behavior β] {w : Surroundings β} {s s' : SwarmRun β}

/-- **Every change keeps users on their moves.** -/
theorem Change.followed (hc : Change w s s') (h : Followed w s.users s.requests s.stage) :
    Followed w s'.users s'.requests s'.stage := by
  have busy := @UserTask.exit?_eq_none_of_requesting β
  have begins := @UserTask.exit?_eq_none_of_begins β
  cases hc with
  | request i t path b user turn going move => exact h.request user (begins turn) move _ _
  | answerYield i t number path since due outcome stats user phase
  | answerWait i t number path since due outcome stats d user phase =>
    exact h.leave user (busy phase) fun _ => rfl
  | overflow i t number path since due outcome stats o user phase
  | answerCrash i t number path since due outcome stats e user phase =>
    exact h.end_ user (busy phase)
  | stop i t user alive => exact h.end_ user alive
  | fail i t e b user turn | crash i t message b user turn => exact h.end_ user (begins turn)
  | spawn i stage =>
    rw [stage] at h
    refine h.spawn fun j hj => ?_
    dsimp only [SwarmRun.spawn] at hj
    split_ifs at hj <;> exact (Option.some.inj hj).symm
  | resumeSpawning i due stage => exact h.toStage fun j hj => by rw [stage]; exact hj
  | endSpawning | endJoining | report | noReport => exact h.toStage nofun
  | _ => exact h

/-- **In every run, users follow their moves.** -/
theorem leads_followed {settings : SwarmSettings} {latch : Latch} {start : Nat}
    (h : Leads w (.begin w settings latch start) s) : Followed w s.users s.requests s.stage :=
  h.induction (P := fun s => Followed w s.users s.requests s.stage)
    (fun _ _ _ hs hc => hc.followed hs) (fun _ _ _ hs => hs)
    ⟨nofun, fun _ _ => rfl, fun _ hi => Option.some.inj hi.symm⟩

/-- **A request of a user is the move with its number**, whatever else happens in the run. -/
theorem leads_move {settings : SwarmSettings} {latch : Latch} {start : Nat}
    (h : Leads w (.begin w settings latch start) s) {i k : Nat} {path : String}
    (hk : (pathsOf s.requests i)[k]? = some path) :
    Behavior.move (w.make i) k = .request path := by
  have hf := leads_followed h
  rcases hu : s.users[i]? with _ | t
  · rw [hf.unmade i (List.getElem?_eq_none_iff.1 hu)] at hk
    cases hk
  · exact (hf.user i t hu).move_eq hk

/-- What a user requests in the shorter of two sequences begins the other one. -/
theorem pathsOf_take {w' : Surroundings β} {settings settings' : SwarmSettings}
    {latch latch' : Latch} {start start' : Nat} {i : Nat} (same : w.make i = w'.make i)
    (h : Leads w (.begin w settings latch start) s) (h' : Leads w' (.begin w' settings' latch' start') s')
    (hle : (pathsOf s.requests i).length ≤ (pathsOf s'.requests i).length) :
    pathsOf s.requests i <+: pathsOf s'.requests i := by
  refine List.prefix_iff_getElem?.2 fun k hk => ?_
  have hk' : k < (pathsOf s'.requests i).length := by omega
  have hmove := leads_move h (List.getElem?_eq_getElem hk)
  have hmove' := leads_move h' (List.getElem?_eq_getElem hk')
  rw [same, hmove'] at hmove
  rw [List.getElem?_eq_getElem hk', Move.request.inj hmove]

/-- **What a user requests in one of two runs begins what it requests in the other one**, if it
    begins with the same behavior, whatever else is different. -/
theorem pathsOf_comparable {w' : Surroundings β} {settings settings' : SwarmSettings}
    {latch latch' : Latch} {start start' : Nat} {i : Nat} (same : w.make i = w'.make i)
    (h : Leads w (.begin w settings latch start) s)
    (h' : Leads w' (.begin w' settings' latch' start') s') :
    pathsOf s.requests i <+: pathsOf s'.requests i ∨
      pathsOf s'.requests i <+: pathsOf s.requests i := by
  rcases le_total (pathsOf s.requests i).length (pathsOf s'.requests i).length with hle | hle
  · exact .inl (pathsOf_take same h h' hle)
  · exact .inr (pathsOf_take same.symm h' h hle)

end SwarmRun

end LoadSwarm
