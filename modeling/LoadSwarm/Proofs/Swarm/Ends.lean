/-
  The ends of users, and what the run has heard of them.

  * `Hears exit unheard tally heard`: the users that ended are those of which the run has heard
    and those that wait to be heard of, each once, and the tally counts the ones heard.
  * `Told s heard`: with this, the failures of users are told in the order in which users end.
  * `EndChange`, `Change.end_cases`: a change ends one user, or the run hears of one, or ends stay
    as they are.
  * `Change.told`: so every change keeps `Told`; `leads_told`, `leads_hears`: and it holds in every
    run.
  * `Hears.heard_eq_iff`: the run has heard of as many ends as there are users once all of them
    have ended.
  * `Returns`, `Change.return_cases`: what a run looks like as it returns.
  * `ended_of_returned`, `unheard_of_returned`: when a run has returned, all its users have ended,
    and it has heard of all of them.
-/
import LoadSwarm.Proofs.Swarm.Change

namespace LoadSwarm

/-- Changing an entry of a list, and looking up any entry. -/
theorem getElem?_set_of_some {α : Type} {l : List α} {i : Nat} {a : α} (h : l[i]? = some a) (b : α)
    (j : Nat) : (l.set i b)[j]? = if i = j then some b else l[j]? := by
  rw [List.getElem?_set]
  split_ifs with hij hi
  · rfl
  · exact absurd (List.getElem?_eq_some_iff.1 h).1 hi
  · rfl

/-- The error that a user has ended with. -/
def UserExit.error? : UserExit → Option UserError
  | failed e => some e
  | stopped _ | crashed _ => none

theorem UserExit.error?_eq_some_iff {exit : UserExit} {e : UserError} :
    exit.error? = some e ↔ exit = .failed e := by
  cases exit <;> simp [error?]

/-- The failure of a user that an event tells. -/
def SwarmEvent.failure? : SwarmEvent → Option (Nat × UserError)
  | userFailed i e => some (i, e)
  | _ => none

/-- The failures of users that events tell, in order, of events with the last one first. -/
def failuresOf (events : List (Nat × SwarmEvent)) : List (Nat × UserError) :=
  events.reverse.filterMap fun e => e.2.failure?

theorem failuresOf_cons (e : Nat × SwarmEvent) (es : List (Nat × SwarmEvent)) :
    failuresOf (e :: es) = failuresOf es ++ e.2.failure?.toList := by
  unfold failuresOf
  rw [List.reverse_cons, List.filterMap_append]
  rcases h : e.2.failure? <;> simp [h]

theorem failuresOf_cons_of_none {e : Nat × SwarmEvent} (h : e.2.failure? = none)
    (es : List (Nat × SwarmEvent)) : failuresOf (e :: es) = failuresOf es := by
  rw [failuresOf_cons, h, Option.toList_none, List.append_nil]

/-- Whether the run has returned. -/
def Stage.isReturned : Stage → Bool
  | returned .. => true
  | _ => false

theorem Stage.exists_of_isReturned {st : Stage} (h : st.isReturned = true) :
    ∃ time result, st = .returned time result := by
  cases st with
  | returned time result => exact ⟨time, result, rfl⟩
  | spawning | pausing | joining | draining => cases h

theorem UserTask.exit?_eq_none_of_requesting {β : Type} {t : UserTask β} {number : Nat}
    {path : String} {since due : Nat} {outcome : Outcome}
    (h : t.phase = .requesting number path since due outcome) : t.exit? = none := by
  unfold exit?; rw [h]

namespace SwarmRun

variable {β : Type}

theorem exitOf?_eq (s : SwarmRun β) (i : Nat) :
    s.exitOf? i = (s.users[i]?).bind UserTask.exit? := rfl

/-- **The run hears of every end once**: `heard` are the users of whose ends it has heard. -/
structure Hears (exit : Nat → Option UserExit) (unheard : List Nat) (tally : Tally)
    (heard : List Nat) : Prop where
  nodup : (heard ++ unheard).Nodup
  mem_iff : ∀ i, i ∈ heard ++ unheard ↔ (exit i).isSome = true
  tally : tally = heard.foldl (fun t i => t.hear (exit i)) {}

namespace Hears
variable {exit exit' : Nat → Option UserExit} {unheard heard : List Nat} {tally : Tally} {i : Nat}

theorem congr (h : Hears exit unheard tally heard) (he : ∀ j, exit' j = exit j) :
    Hears exit' unheard tally heard := by
  rwa [funext he]

theorem not_mem (h : Hears exit unheard tally heard) (alive : exit i = none) :
    i ∉ heard ++ unheard := fun hmem => by simpa [alive] using (h.mem_iff i).1 hmem

/-- One more user has ended. -/
theorem end_ (h : Hears exit unheard tally heard) (alive : exit i = none)
    (ended : (exit' i).isSome = true) (others : ∀ j, j ≠ i → exit' j = exit j) :
    Hears exit' (unheard ++ [i]) tally heard := by
  have hi := h.not_mem alive
  refine ⟨?_, fun j => ?_, ?_⟩
  · rw [← List.append_assoc]
    exact List.nodup_append.2 ⟨h.nodup, List.nodup_singleton i, fun a ha b hb he =>
      hi (List.mem_singleton.1 hb ▸ he ▸ ha)⟩
  · rw [← List.append_assoc, List.mem_append, List.mem_singleton, h.mem_iff]
    by_cases hj : j = i
    · subst hj; simp [ended]
    · simp [hj, others j hj]
  · rw [h.tally]
    refine List.foldl_ext _ _ _ fun t j hj => ?_
    rw [others j fun he => hi (List.mem_append_left _ (he ▸ hj))]

/-- The run hears of the user that has waited longest. -/
theorem hear {rest : List Nat} (h : Hears exit (i :: rest) tally heard) :
    Hears exit rest (tally.hear (exit i)) (heard ++ [i]) := by
  refine ⟨?_, fun j => ?_, ?_⟩
  · simpa using h.nodup
  · rw [← h.mem_iff]; simp
  · rw [List.foldl_concat, h.tally]

theorem heard_eq (h : Hears exit unheard tally heard) : tally.heard = heard.length := by
  have count : ∀ (l : List Nat) (t : Tally),
      (l.foldl (fun t i => t.hear (exit i)) t).heard = t.heard + l.length := by
    intro l
    induction l with
    | nil => intro t; rfl
    | cons j l ih =>
      intro t
      have hone : (t.hear (exit j)).heard = t.heard + 1 := by
        unfold Tally.hear; split <;> rfl
      rw [List.foldl_cons, ih, hone, List.length_cons]; omega
  rw [h.tally, count]
  exact Nat.zero_add _

/-- The failures are those of the users heard, in the order in which the run heard of them. -/
theorem failures_eq (h : Hears exit unheard tally heard) :
    tally.failures = heard.filterMap fun i => (exit i).bind UserExit.error? := by
  have collect : ∀ (l : List Nat) (t : Tally), (l.foldl (fun t i => t.hear (exit i)) t).failures =
      t.failures ++ l.filterMap fun i => (exit i).bind UserExit.error? := by
    intro l
    induction l with
    | nil => intro t; simp
    | cons j l ih =>
      intro t
      rw [List.foldl_cons, ih, List.filterMap_cons]
      rcases exit j with _ | _ | e | _ <;> simp [Tally.hear, UserExit.error?]
  rw [h.tally, collect]; rfl

/-- **With nobody waiting to be heard of, the run has heard of as many users as there are if all of
    them have ended**, and only then. -/
theorem heard_eq_iff {n : Nat} (h : Hears exit [] tally heard)
    (bound : ∀ i, (exit i).isSome = true → i < n) :
    tally.heard = n ↔ ∀ i < n, (exit i).isSome = true := by
  have mem (i : Nat) : i ∈ heard.toFinset ↔ (exit i).isSome = true := by
    rw [← h.mem_iff, List.mem_toFinset, List.append_nil]
  have hcard : heard.toFinset.card = tally.heard := by
    rw [List.toFinset_card_of_nodup (by simpa using h.nodup), h.heard_eq]
  have hsub : heard.toFinset ⊆ Finset.range n :=
    fun i hi => Finset.mem_range.2 (bound i ((mem i).1 hi))
  constructor
  · intro all i hi
    have heq := Finset.eq_of_subset_of_card_le hsub (by rw [hcard, all, Finset.card_range])
    rw [← mem, heq]
    exact Finset.mem_range.2 hi
  · intro all
    have heq : heard.toFinset = Finset.range n :=
      hsub.antisymm fun i hi => (mem i).2 (all i (Finset.mem_range.1 hi))
    rw [← hcard, heq, Finset.card_range]

end Hears

/-! ## Failures in the order of ends -/

section
variable {s : SwarmRun β}

/-- The failure with which a user has ended. -/
def failureOf? (s : SwarmRun β) (i : Nat) : Option (Nat × UserError) :=
  ((s.exitOf? i).bind UserExit.error?).map fun e => (i, e)

theorem failureOf?_eq_some_iff {i j : Nat} {e : UserError} :
    s.failureOf? i = some (j, e) ↔ i = j ∧ s.exitOf? i = some (.failed e) := by
  simp only [failureOf?, Option.map_eq_some_iff, Option.bind_eq_some_iff,
    UserExit.error?_eq_some_iff, Prod.mk.injEq]
  constructor
  · rintro ⟨_, ⟨_, he, rfl⟩, rfl, rfl⟩; exact ⟨rfl, he⟩
  · rintro ⟨rfl, he⟩; exact ⟨e, ⟨_, he, rfl⟩, rfl, rfl⟩

/-- **Failures are told in the order of ends**: `heard` are the users of whose ends the run has
    heard, and those that wait to be heard of ended after them. -/
structure Told (s : SwarmRun β) (heard : List Nat) : Prop where
  hears : Hears s.exitOf? s.unheard s.tally heard
  told : failuresOf s.events = (heard ++ s.unheard).filterMap s.failureOf?

namespace Told
variable {heard : List Nat}

theorem mem_iff (h : Told s heard) {i : Nat} {e : UserError} :
    (i, e) ∈ failuresOf s.events ↔ s.exitOf? i = some (.failed e) := by
  rw [h.told, List.mem_filterMap]
  constructor
  · rintro ⟨j, -, hj⟩
    obtain ⟨rfl, he⟩ := failureOf?_eq_some_iff.1 hj
    exact he
  · intro he
    exact ⟨i, (h.hears.mem_iff i).2 (by rw [he]; rfl), failureOf?_eq_some_iff.2 ⟨rfl, he⟩⟩

/-- With nobody waiting to be heard of, the run has heard of the failures that were told. -/
theorem failures_eq (h : Told s heard) (hu : s.unheard = []) :
    s.tally.failures = (failuresOf s.events).map Prod.snd := by
  rw [h.hears.failures_eq, h.told, hu, List.append_nil, List.map_filterMap]
  refine List.filterMap_congr fun i _ => ?_
  simp [failureOf?, Function.comp_def]

end Told

end

/-! ## Every change -/

/-- A user that goes on without an end changes no end. -/
theorem exitOf?_set_alive {s s' : SwarmRun β} {i : Nat} {t t' : UserTask β}
    (user : s.users[i]? = some t) (alive : t.exit? = none) (alive' : t'.exit? = none)
    (hu : s'.users = s.users.set i t') (j : Nat) : s'.exitOf? j = s.exitOf? j := by
  rw [exitOf?_eq, exitOf?_eq, hu, getElem?_set_of_some user]
  split_ifs with hij
  · subst hij; simp [user, alive, alive']
  · rfl

/-- What a user has ended with is known. -/
theorem exitOf?_endUser {s : SwarmRun β} {i : Nat} {t : UserTask β} (user : s.users[i]? = some t)
    (t' : UserTask β) (exit : UserExit) (j : Nat) :
    (s.endUser i t' exit).exitOf? j = if i = j then some exit else s.exitOf? j := by
  rw [exitOf?_eq]
  unfold endUser setUser
  rw [getElem?_set_of_some user]
  split_ifs <;> rfl

theorem exitOf?_spawn (w : Surroundings β) (s : SwarmRun β) (n i : Nat) :
    (s.spawn w n).exitOf? i = s.exitOf? i := by
  simp only [exitOf?_eq, spawn]
  rcases lt_trichotomy i s.users.length with hi | rfl | hi
  · rw [List.getElem?_append_left hi]
  · simp [UserTask.exit?]
  · have h1 : (s.users ++ [({ behavior := w.make n } : UserTask β)])[i]? = none := by
      rw [List.getElem?_eq_none_iff]; simp; omega
    rw [h1, List.getElem?_eq_none_iff.2 hi.le]

/-- Only users that were made have ended. -/
theorem lt_of_exitOf? {s : SwarmRun β} {i : Nat} (h : (s.exitOf? i).isSome = true) :
    i < s.users.length := by
  rw [exitOf?_eq] at h
  by_contra hi
  rw [List.getElem?_eq_none_iff.2 (not_lt.1 hi)] at h
  cases h

/-- What can become of the ends of users, and of what is told of them. -/
inductive EndChange (s s' : SwarmRun β) : Prop
  | same (exits : ∀ j, s'.exitOf? j = s.exitOf? j) (unheard : s'.unheard = s.unheard)
      (tally : s'.tally = s.tally) (failures : failuresOf s'.events = failuresOf s.events)
  | ends (i : Nat) (exit : UserExit) (alive : s.exitOf? i = none)
      (exits : ∀ j, s'.exitOf? j = if i = j then some exit else s.exitOf? j)
      (unheard : s'.unheard = s.unheard ++ [i]) (tally : s'.tally = s.tally)
      (failures : failuresOf s'.events =
        failuresOf s.events ++ (exit.error?.map fun e => (i, e)).toList)
  | hears (i : Nat) (rest : List Nat) (exits : ∀ j, s'.exitOf? j = s.exitOf? j)
      (unheard : s.unheard = i :: rest) (unheard' : s'.unheard = rest)
      (tally : s'.tally = s.tally.hear (s.exitOf? i))
      (failures : failuresOf s'.events = failuresOf s.events)

theorem exitOf?_of_alive {s : SwarmRun β} {i : Nat} {t : UserTask β} (user : s.users[i]? = some t)
    (alive : t.exit? = none) : s.exitOf? i = none := by rw [exitOf?_eq, user]; exact alive

/-- A user ends without a word, or with words that tell of no failure. -/
theorem EndChange.endUser {s s₀ : SwarmRun β} {i : Nat} {t : UserTask β}
    (user : s.users[i]? = some t) (alive : t.exit? = none) (t' : UserTask β) (exit : UserExit)
    (users : s₀.users = s.users) (unheard : s₀.unheard = s.unheard) (tally : s₀.tally = s.tally)
    (failures : failuresOf s₀.events =
      failuresOf s.events ++ (exit.error?.map fun e => (i, e)).toList) :
    EndChange s (s₀.endUser i t' exit) := by
  refine .ends i exit (exitOf?_of_alive user alive) (fun j => ?_) ?_ tally failures
  · rw [exitOf?_endUser (users ▸ user) t' exit, exitOf?_eq s₀, users, exitOf?_eq]
  · unfold SwarmRun.endUser; rw [unheard]

theorem failuresOf_triggered (s : SwarmRun β) (reason : String) :
    failuresOf (s.triggered reason).events = failuresOf s.events := by
  unfold triggered
  dsimp only
  split
  · exact failuresOf_cons_of_none rfl _
  · rfl

variable [Behavior β] {w : Surroundings β} {s s' : SwarmRun β} {settings : SwarmSettings}
  {latch : Latch} {start : Nat}

/-- **A change ends one user, or the run hears of one**, or ends stay as they are. -/
theorem Change.end_cases (hc : Change w s s') : EndChange s s' := by
  have busy := @UserTask.exit?_eq_none_of_requesting β
  have begins := @UserTask.exit?_eq_none_of_begins β
  cases hc with
  | request i t path b user turn =>
    exact .same (exitOf?_set_alive user (begins turn) rfl rfl) rfl rfl rfl
  | answerYield i t number path since due outcome stats user phase
  | answerWait i t number path since due outcome stats d user phase =>
    exact .same (exitOf?_set_alive user (busy phase) rfl rfl) rfl rfl rfl
  | overflow i t number path since due outcome stats o user phase =>
    exact .endUser user (busy phase) _ _ rfl rfl rfl (List.append_nil _).symm
  | answerCrash i t number path since due outcome stats e user phase =>
    exact .endUser user (busy phase) _ _ rfl rfl rfl (List.append_nil _).symm
  | crash i t message b user turn =>
    exact .endUser user (begins turn) _ _ rfl rfl rfl (List.append_nil _).symm
  | stop i t user alive =>
    exact .endUser user alive _ _ rfl rfl rfl (failuresOf_cons _ _)
  | fail i t e b user turn =>
    exact .endUser user (begins turn) _ _ rfl rfl rfl (failuresOf_cons _ _)
  | spawn i => exact .same (exitOf?_spawn w s i) rfl rfl rfl
  | hear i rest stage unheard =>
    refine .hears i rest (fun _ => rfl) unheard rfl rfl ?_
    unfold heardOf
    dsimp only
    split
    · exact failuresOf_cons_of_none rfl _
    · rfl
  | greet | endSpawning | report | progress =>
    exact .same (fun _ => rfl) rfl rfl (failuresOf_cons_of_none rfl _)
  | endJoining | timeout | trigger =>
    exact .same (fun _ => rfl) rfl rfl (failuresOf_triggered s _)
  | resumeSpawning | noReport | dropTimer | dropProgress =>
    exact .same (fun _ => rfl) rfl rfl rfl

/-- **Every change tells of failures in the order of ends.** -/
theorem Change.told (hc : Change w s s') (h : ∃ heard, Told s heard) : ∃ heard, Told s' heard := by
  obtain ⟨heard, h⟩ := h
  have same (exits : ∀ j, s'.exitOf? j = s.exitOf? j) (j : Nat) :
      s'.failureOf? j = s.failureOf? j := by unfold failureOf?; rw [exits]
  cases hc.end_cases with
  | same exits unheard tally failures =>
    refine ⟨heard, by rw [unheard, tally]; exact h.hears.congr exits, ?_⟩
    rw [failures, unheard, h.told]
    exact List.filterMap_congr fun j _ => (same exits j).symm
  | ends i exit alive exits unheard tally failures =>
    have others (j : Nat) (hj : j ≠ i) : s'.exitOf? j = s.exitOf? j := by
      rw [exits, if_neg hj.symm]
    have ended : s'.exitOf? i = some exit := by rw [exits, if_pos rfl]
    refine ⟨heard, ?_, ?_⟩
    · rw [unheard, tally]
      exact h.hears.end_ alive (by rw [ended]; rfl) others
    · have hi := h.hears.not_mem alive
      have hlast : [i].filterMap s'.failureOf? =
          (exit.error?.map fun e => (i, e)).toList := by
        rw [List.filterMap_cons, failureOf?, ended, Option.bind_some]
        rcases exit.error? with _ | e <;> rfl
      rw [failures, unheard, ← List.append_assoc, List.filterMap_append, hlast, h.told]
      refine congrArg (· ++ _) (List.filterMap_congr fun j hj => ?_)
      unfold failureOf?
      rw [others j fun he => hi (he ▸ hj)]
  | hears i rest exits unheard unheard' tally failures =>
    have hhears := h.hears
    rw [unheard] at hhears
    refine ⟨heard ++ [i], by rw [unheard', tally]; exact hhears.hear.congr exits, ?_⟩
    rw [failures, h.told, unheard, unheard', List.append_assoc, List.singleton_append]
    exact List.filterMap_congr fun j _ => (same exits j).symm

/-- **Every run tells of failures in the order of ends**, and hears of them in this order. -/
theorem leads_told (h : Leads w (.begin w settings latch start) s) : ∃ heard, Told s heard :=
  h.induction (fun _ _ _ hs hc => hc.told hs)
    (fun _ _ _ ⟨heard, hs⟩ => ⟨heard, hs.hears, hs.told⟩)
    ⟨[], ⟨List.nodup_nil, by simp [exitOf?_eq, SwarmRun.begin], rfl⟩, rfl⟩

theorem leads_hears (h : Leads w (.begin w settings latch start) s) :
    ∃ heard, Hears s.exitOf? s.unheard s.tally heard :=
  (leads_told h).imp fun _ ht => ht.hears

/-! ## The return -/

/-- What a run looks like as it returns. -/
structure Returns (w : Surroundings β) (s s' : SwarmRun β) (time : Nat)
    (result : Except RunFailure StatsReport) : Prop where
  unheard : s.unheard = []
  heard : s.tally.heard = s.users.length
  now : time = s.now
  users : s'.users = s.users
  unheard' : s'.unheard = []
  stats : s'.stats = s.stats
  conclude : s'.conclude = s.conclude
  result : (∃ report, s.snapshot w = .ok report ∧ result = s.conclude report) ∨
    ∃ o, s.snapshot w = .error o ∧ result = .error (.crashed o.message)

/-- A run that has returned after a change had returned before, or it returns. -/
theorem Change.return_cases (hc : Change w s s') {time : Nat}
    {result : Except RunFailure StatsReport} (h : s'.stage = .returned time result) :
    s.stage = .returned time result ∨ Returns w s s' time result := by
  cases hc with
  | spawn i => unfold SwarmRun.spawn at h; dsimp only at h; split_ifs at h
  | resumeSpawning | endSpawning | endJoining => cases h
  | report r _ unheard heard snapshot =>
    obtain ⟨rfl, rfl⟩ := Stage.returned.inj h
    exact .inr ⟨unheard, of_decide_eq_true heard, rfl, rfl, unheard, rfl, rfl,
      .inl ⟨r, snapshot, rfl⟩⟩
  | noReport o _ unheard heard snapshot =>
    obtain ⟨rfl, rfl⟩ := Stage.returned.inj h
    exact .inr ⟨unheard, of_decide_eq_true heard, rfl, rfl, unheard, rfl, rfl,
      .inr ⟨o, snapshot, rfl⟩⟩
  | _ => exact .inl h

/-- Whether all users of a run have ended. -/
def AllEnded (s : SwarmRun β) : Prop := ∀ i < s.users.length, (s.exitOf? i).isSome = true

omit [Behavior β] in
theorem AllEnded.not_alive (h : s.AllEnded) {i : Nat} {t : UserTask β}
    (user : s.users[i]? = some t) : t.exit? ≠ none := by
  have hi := h i (List.getElem?_eq_some_iff.1 user).1
  rw [exitOf?_eq, user] at hi
  exact fun ha => by simp [ha] at hi

/-- After the return, with all users ended, the users and their figures stay as they are. -/
theorem Change.still (hc : Change w s s') (hr : s.stage.isReturned = true) (h : s.AllEnded) :
    s'.users = s.users ∧ s'.stats = s.stats ∧ s'.conclude = s.conclude ∧
      s'.unheard = s.unheard := by
  have busy := @UserTask.exit?_eq_none_of_requesting β
  have begins := @UserTask.exit?_eq_none_of_begins β
  cases hc with
  | request i t path b user turn | fail i t e b user turn | crash i t message b user turn =>
    exact absurd (begins turn) (h.not_alive user)
  | overflow i t number path since due outcome stats o user phase
  | answerYield i t number path since due outcome stats user phase
  | answerWait i t number path since due outcome stats d user phase
  | answerCrash i t number path since due outcome stats e user phase =>
    exact absurd (busy phase) (h.not_alive user)
  | stop i t user alive => exact absurd alive (h.not_alive user)
  | spawn i stage => rw [stage] at hr; cases hr
  | hear i rest stage =>
    rcases stage with hst | hst
    · rw [hst] at hr; cases hr
    · rw [hst] at hr; cases hr
  | _ => exact ⟨rfl, rfl, rfl, rfl⟩

/-- **When a run has returned, all its users have ended.** -/
theorem ended_of_returned (h : Leads w (.begin w settings latch start) s)
    (hr : s.stage.isReturned = true) : s.AllEnded := by
  refine h.induction (P := fun s => s.stage.isReturned = true → s.AllEnded)
    (fun s s' hl hs hc hr' => ?_) (fun _ _ _ hs => hs) nofun hr
  obtain ⟨time, result, hst⟩ := Stage.exists_of_isReturned hr'
  rcases hc.return_cases hst with hold | hret
  · have hr : s.stage.isReturned = true := by rw [hold]; rfl
    have hu := (hc.still hr (hs hr)).1
    unfold AllEnded exitOf?; rw [hu]; exact hs hr
  · obtain ⟨heard, hh⟩ := leads_hears hl
    rw [hret.unheard] at hh
    unfold AllEnded exitOf?; rw [hret.users]
    exact (hh.heard_eq_iff fun i => lt_of_exitOf?).1 hret.heard

/-- When a run has returned, it has heard of all ends. -/
theorem unheard_of_returned (h : Leads w (.begin w settings latch start) s)
    (hr : s.stage.isReturned = true) : s.unheard = [] := by
  refine h.induction (P := fun s => s.stage.isReturned = true → s.unheard = [])
    (fun s s' hl hs hc hr' => ?_) (fun _ _ _ hs => hs) nofun hr
  obtain ⟨time, result, hst⟩ := Stage.exists_of_isReturned hr'
  rcases hc.return_cases hst with hold | hret
  · have hr : s.stage.isReturned = true := by rw [hold]; rfl
    rw [(hc.still hr (ended_of_returned hl hr)).2.2.2, hs hr]
  · rw [hret.unheard']

end SwarmRun

end LoadSwarm
