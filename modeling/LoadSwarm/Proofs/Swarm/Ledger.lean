/-
  What becomes of the requests of a run.

  * `requestAt`, `completed`: the request with a number, and the numbers of the requests whose
    iterations have ended.
  * `Ledger`: every request has ended its iteration, or is in flight or lost with its user; its
    rules are those of the changes of a user (`Ledger.start`, `Ledger.complete`, `Ledger.leave`).
  * `Balance`: the counts of users, requests and iterations.
  * `Recorded`: the statistics are those of the completed requests, in the order of their ends.
  * `leads_books`: all three hold in every run, whatever the order and the pace of its tasks.
-/
import LoadSwarm.Proofs.Stats.Requests
import LoadSwarm.Proofs.Swarm.Ends

namespace LoadSwarm

/-! ## Requests and iterations -/

/-- The request with a number, of requests with the last one first. -/
def requestAt (requests : List StartedRequest) (number : Nat) : Option StartedRequest :=
  requests.reverse[number]?

theorem requestAt_cons (r : StartedRequest) (rs : List StartedRequest) (number : Nat) :
    requestAt (r :: rs) number = if number = rs.length then some r else requestAt rs number := by
  unfold requestAt
  rw [List.reverse_cons]
  split_ifs with h
  · subst h; simp
  · rcases lt_or_gt_of_ne h with hlt | hgt
    · rw [List.getElem?_append_left (by simpa using hlt)]
    · rw [List.getElem?_eq_none_iff.2 (by simp; omega), List.getElem?_eq_none_iff.2 (by simp; omega)]

theorem requestAt_lt {requests : List StartedRequest} {number : Nat} {r : StartedRequest}
    (h : requestAt requests number = some r) : number < requests.length := by
  simpa using (List.getElem?_eq_some_iff.1 h).1

/-- The next request does not change the ones before. -/
theorem requestAt_cons_of_eq {requests : List StartedRequest} {number : Nat} {r : StartedRequest}
    (h : requestAt requests number = some r) (r' : StartedRequest) :
    requestAt (r' :: requests) number = some r := by
  rw [requestAt_cons, if_neg (requestAt_lt h).ne, h]

/-- The numbers of the requests whose iterations have ended, the last one first. -/
def completed (iterations : List FinishedIteration) : List Nat := iterations.filterMap (·.request)

theorem mem_completed {iterations : List FinishedIteration} {number : Nat} :
    number ∈ completed iterations ↔ ∃ it ∈ iterations, it.request = some number :=
  List.mem_filterMap

/-- What a user keeps of a request that has not completed: it waits for the answer, or it has
    ended with the stop or with a sum that left its range. -/
def UserPhase.Holds (stopping : Bool) (number : Nat) (r : StartedRequest) : UserPhase → Prop
  | requesting n path since _ _ => n = number ∧ path = r.path ∧ since = r.time
  | ended (.stopped _) => stopping = true
  | ended (.crashed message) => ∃ o : StatsOverflow, message = o.message
  | ended (.failed _) | starting | yielding | waiting _ => False

/-- Whether a request can be with a user. -/
def UserPhase.weight : UserPhase → Nat
  | requesting .. | ended _ => 1
  | starting | yielding | waiting _ => 0

/-- Whether a user waits for an answer. -/
def UserPhase.isRequesting : UserPhase → Bool
  | requesting .. => true
  | starting | yielding | waiting _ | ended _ => false

theorem UserPhase.not_holds_of_beginsAt {p : UserPhase} {now : Nat} (h : p.beginsAt now = true)
    (stopping : Bool) (number : Nat) (r : StartedRequest) : ¬p.Holds stopping number r := by
  cases p with
  | requesting | ended => cases h
  | starting | yielding | waiting => exact id

theorem UserPhase.weight_eq_zero_of_beginsAt {p : UserPhase} {now : Nat}
    (h : p.beginsAt now = true) : p.weight = 0 := by
  cases p with
  | requesting | ended => cases h
  | starting | yielding | waiting => rfl

/-! ## The ledger -/

/-- **Every request is accounted for**: its iteration has ended, or its user keeps it. -/
structure Ledger {β : Type} (w : Surroundings β) (users : List (UserTask β))
    (requests : List StartedRequest) (iterations : List FinishedIteration) (stopping : Bool) :
    Prop where
  flight : ∀ {i : Nat} {t : UserTask β} {number : Nat} {path : String} {since due : Nat}
    {outcome : Outcome}, users[i]? = some t →
      t.phase = .requesting number path since due outcome →
      requestAt requests number = some ⟨since, i, path⟩ ∧
        outcome = (w.client number path).outcome ∧ number ∉ completed iterations
  done : ∀ it ∈ iterations, ∀ number, it.request = some number →
    it.failure = none ∧ ∃ path, requestAt requests number = some ⟨it.start, it.user, path⟩
  failed : ∀ it ∈ iterations, it.request = none → it.failure ≠ none
  once : (completed iterations).Nodup
  rest : ∀ {number : Nat} {r : StartedRequest}, requestAt requests number = some r →
    number ∈ completed iterations ∨
      ∃ t, users[r.user]? = some t ∧ t.phase.Holds stopping number r

namespace Ledger
variable {β : Type} {w : Surroundings β} {users : List (UserTask β)}
  {requests : List StartedRequest} {iterations : List FinishedIteration} {stopping : Bool}
  {i : Nat} {t t' : UserTask β}

theorem lt_of_completed (h : Ledger w users requests iterations stopping) {number : Nat}
    (hn : number ∈ completed iterations) : number < requests.length := by
  obtain ⟨it, hit, hreq⟩ := mem_completed.1 hn
  obtain ⟨-, path, hr⟩ := h.done it hit number hreq
  exact requestAt_lt hr

theorem completed_length_le (h : Ledger w users requests iterations stopping) :
    (completed iterations).length ≤ requests.length := by
  have hsub : completed iterations ⊆ List.range requests.length :=
    fun n hn => List.mem_range.2 (h.lt_of_completed hn)
  simpa using (h.once.subperm hsub).length_le

/-- A user starts the next request. -/
theorem start (h : Ledger w users requests iterations stopping) (user : users[i]? = some t)
    {now : Nat} (turn : t.phase.beginsAt now = true) {path : String} {since due : Nat}
    (phase : t'.phase = .requesting requests.length path since due
      (w.client requests.length path).outcome) :
    Ledger w (users.set i t') (⟨since, i, path⟩ :: requests) iterations stopping where
  flight {j u number path' since' due' outcome'} hj hp := by
    rw [getElem?_set_of_some user] at hj
    split_ifs at hj with hij
    · cases hj
      rw [phase] at hp; cases hp; subst hij
      exact ⟨by rw [requestAt_cons, if_pos rfl], rfl, fun hn => (h.lt_of_completed hn).ne rfl⟩
    · obtain ⟨hr, ho, hn⟩ := h.flight hj hp
      exact ⟨requestAt_cons_of_eq hr _, ho, hn⟩
  done it hit number hn := by
    obtain ⟨hf, path', hr⟩ := h.done it hit number hn
    exact ⟨hf, path', requestAt_cons_of_eq hr _⟩
  failed := h.failed
  once := h.once
  rest {number r} hr := by
    rw [requestAt_cons] at hr
    split_ifs at hr with hn
    · cases hr
      refine .inr ⟨t', by rw [getElem?_set_of_some user, if_pos rfl], ?_⟩
      rw [phase]; exact ⟨hn.symm, rfl, rfl⟩
    · rcases h.rest hr with hc | ⟨u, hu, hold⟩
      · exact .inl hc
      · refine .inr ⟨u, ?_, hold⟩
        rw [getElem?_set_of_some user, if_neg, hu]
        rintro rfl
        rw [user] at hu; cases hu
        exact UserPhase.not_holds_of_beginsAt turn _ _ _ hold

/-- The iteration of a request in flight ends. -/
theorem complete (h : Ledger w users requests iterations stopping) (user : users[i]? = some t)
    {number : Nat} {path : String} {since due : Nat} {outcome : Outcome}
    (phase : t.phase = .requesting number path since due outcome)
    (idle : t'.phase.isRequesting = false) (finish : Nat) :
    Ledger w (users.set i t') requests (⟨i, since, finish, some number, none⟩ :: iterations)
      stopping where
  flight {j u number' path' since' due' outcome'} hj hp := by
    rw [getElem?_set_of_some user] at hj
    split_ifs at hj with hij
    · cases hj
      rw [hp] at idle; cases idle
    · obtain ⟨hr, ho, hn⟩ := h.flight hj hp
      refine ⟨hr, ho, fun hmem => ?_⟩
      rcases List.mem_cons.1 hmem with rfl | hmem
      · have hr' := (h.flight user phase).1
        rw [hr] at hr'; cases hr'
        exact hij rfl
      · exact hn hmem
  done it hit number' hn := by
    rcases List.mem_cons.1 hit with rfl | hit
    · cases hn; exact ⟨rfl, path, (h.flight user phase).1⟩
    · exact h.done it hit number' hn
  failed it hit hn := by
    rcases List.mem_cons.1 hit with rfl | hit
    · cases hn
    · exact h.failed it hit hn
  once := List.nodup_cons.2 ⟨(h.flight user phase).2.2, h.once⟩
  rest {number' r} hr := by
    rcases h.rest hr with hc | ⟨u, hu, hold⟩
    · exact .inl (List.mem_cons_of_mem _ hc)
    · by_cases hi : i = r.user
      · subst hi
        rw [user] at hu; cases hu
        rw [phase] at hold
        exact .inl (List.mem_cons.2 (.inl hold.1.symm))
      · exact .inr ⟨u, by rw [getElem?_set_of_some user, if_neg hi, hu], hold⟩

/-- A user goes on to a phase in which it keeps the request that it kept. -/
theorem leave (h : Ledger w users requests iterations stopping) (user : users[i]? = some t)
    (idle : t'.phase.isRequesting = false)
    (keep : ∀ number r, t.phase.Holds stopping number r → t'.phase.Holds stopping number r) :
    Ledger w (users.set i t') requests iterations stopping where
  flight {j u number path since due outcome} hj hp := by
    rw [getElem?_set_of_some user] at hj
    split_ifs at hj with hij
    · cases hj; rw [hp] at idle; cases idle
    · exact h.flight hj hp
  done := h.done
  failed := h.failed
  once := h.once
  rest {number r} hr := by
    rcases h.rest hr with hc | ⟨u, hu, hold⟩
    · exact .inl hc
    · by_cases hi : i = r.user
      · subst hi
        rw [user] at hu; cases hu
        exact .inr ⟨t', by rw [getElem?_set_of_some user, if_pos rfl], keep _ _ hold⟩
      · exact .inr ⟨u, by rw [getElem?_set_of_some user, if_neg hi, hu], hold⟩

/-- An iteration ends without a request. -/
theorem fail (h : Ledger w users requests iterations stopping) (now : Nat) (e : UserError) :
    Ledger w users requests (⟨i, now, now, none, some e⟩ :: iterations) stopping where
  flight := h.flight
  done it hit number hn := by
    rcases List.mem_cons.1 hit with rfl | hit
    · cases hn
    · exact h.done it hit number hn
  failed it hit hn := by
    rcases List.mem_cons.1 hit with rfl | hit
    · nofun
    · exact h.failed it hit hn
  once := h.once
  rest := h.rest

/-- A user is made. -/
theorem spawn (h : Ledger w users requests iterations stopping) (b : β) :
    Ledger w (users ++ [{ behavior := b }]) requests iterations stopping where
  flight {j u number path since due outcome} hj hp := by
    rw [List.getElem?_append] at hj
    split_ifs at hj
    · exact h.flight hj hp
    · cases List.mem_singleton.1 (List.mem_of_getElem? hj); cases hp
  done := h.done
  failed := h.failed
  once := h.once
  rest {number r} hr := (h.rest hr).imp_right fun ⟨u, hu, hold⟩ =>
    ⟨u, by rw [List.getElem?_append_left (List.getElem?_eq_some_iff.1 hu).1, hu], hold⟩

/-- The stop is triggered. -/
theorem trigger (h : Ledger w users requests iterations stopping) :
    Ledger w users requests iterations true where
  flight := h.flight
  done := h.done
  failed := h.failed
  once := h.once
  rest {number r} hr := (h.rest hr).imp_right fun ⟨u, hu, hold⟩ => by
    refine ⟨u, hu, ?_⟩
    cases hp : u.phase with
    | ended exit => cases exit <;> simp_all [UserPhase.Holds]
    | _ => rw [hp] at hold; exact hold

end Ledger

/-! ## The counts -/

/-- Changing an entry of a list changes a sum over the list by that entry. -/
theorem sum_map_set {α : Type} {l : List α} {i : Nat} {a : α} (h : l[i]? = some a) (b : α)
    (f : α → Nat) : ((l.set i b).map f).sum + f a = (l.map f).sum + f b := by
  induction l generalizing i with
  | nil => cases h
  | cons c l ih =>
    cases i with
    | zero =>
      cases h
      simp only [List.set_cons_zero, List.map_cons, List.sum_cons]; omega
    | succ i =>
      have := ih (i := i) (by simpa using h)
      simp only [List.set_cons_succ, List.map_cons, List.sum_cons]; omega

/-- **The counts of a run fit together.** -/
structure Balance {β : Type} (users : List (UserTask β)) (requests : List StartedRequest)
    (iterations : List FinishedIteration) (made : List (Nat × Nat)) : Prop where
  counted : (users.map (·.iterations)).sum = (completed iterations).length
  bounded : requests.length ≤ (completed iterations).length + (users.map (·.phase.weight)).sum
  made : made.length = users.length

namespace Balance
variable {β : Type} {users : List (UserTask β)} {requests requests' : List StartedRequest}
  {iterations iterations' : List FinishedIteration} {made : List (Nat × Nat)} {i : Nat}
  {t t' : UserTask β}

/-- A user goes on, with what it adds to the counts. -/
theorem set (h : Balance users requests iterations made) (user : users[i]? = some t)
    (hit : t'.iterations + (completed iterations).length =
      t.iterations + (completed iterations').length)
    (hreq : requests'.length + (completed iterations).length + t.phase.weight ≤
      requests.length + (completed iterations').length + t'.phase.weight) :
    Balance (users.set i t') requests' iterations' made := by
  have h1 := sum_map_set user t' (·.iterations)
  have h2 := sum_map_set user t' (·.phase.weight)
  obtain ⟨hi, hr, hm⟩ := h
  exact ⟨by omega, by omega, by simpa using hm⟩

theorem start (h : Balance users requests iterations made) (user : users[i]? = some t) {now : Nat}
    (turn : t.phase.beginsAt now = true) (t' : UserTask β) (same : t'.iterations = t.iterations)
    (busy : t'.phase.isRequesting = true) (r : StartedRequest) :
    Balance (users.set i t') (r :: requests) iterations made := by
  have hw : t'.phase.weight = 1 := by
    cases hp : t'.phase with
    | requesting => rfl
    | starting | yielding | waiting | ended => rw [hp] at busy; cases busy
  refine h.set user (by omega) ?_
  rw [UserPhase.weight_eq_zero_of_beginsAt turn, hw, List.length_cons]; omega

theorem complete (h : Balance users requests iterations made) (user : users[i]? = some t)
    {number : Nat} {path : String} {since due : Nat} {outcome : Outcome}
    (phase : t.phase = .requesting number path since due outcome)
    (more : t'.iterations = t.iterations + 1) (finish : Nat) :
    Balance (users.set i t') requests (⟨i, since, finish, some number, none⟩ :: iterations) made := by
  have hlen : (completed (⟨i, since, finish, some number, none⟩ :: iterations)).length =
      (completed iterations).length + 1 := rfl
  have hw : t.phase.weight = 1 := by rw [phase]; rfl
  refine h.set user (by omega) ?_
  rw [hlen, hw]; omega

/-- A user ends. -/
theorem end_ (h : Balance users requests iterations made) (user : users[i]? = some t) {b : β}
    {exit : UserExit} :
    Balance (users.set i { t with behavior := b, phase := .ended exit }) requests iterations made :=
  h.set user rfl (by unfold UserPhase.weight; split <;> omega)

theorem fail (h : Balance users requests iterations made) (now : Nat) (e : UserError) :
    Balance users requests (⟨i, now, now, none, some e⟩ :: iterations) made :=
  ⟨h.counted, h.bounded, h.made⟩

theorem spawn (h : Balance users requests iterations made) (b : β) (e : Nat × Nat) :
    Balance (users ++ [{ behavior := b }]) requests iterations (e :: made) := by
  obtain ⟨hi, hr, hm⟩ := h
  refine ⟨?_, ?_, ?_⟩
  · simpa using hi
  · simpa [UserPhase.weight] using hr
  · simpa using hm

/-- There are at most as many requests without an iteration as users. -/
theorem le_made (h : Balance users requests iterations made) :
    requests.length ≤ (completed iterations).length + made.length := by
  have hw : (users.map (·.phase.weight)).sum ≤ users.length := by
    refine (List.sum_le_card_nsmul _ 1 fun n hn => ?_).trans (by simp)
    obtain ⟨t, -, rfl⟩ := List.mem_map.1 hn
    cases t.phase <;> simp [UserPhase.weight]
  obtain ⟨-, hr, hm⟩ := h
  omega

end Balance

/-! ## The statistics -/

/-- What is recorded of an iteration that ended well. -/
def recordingOf {β : Type} (w : Surroundings β) (requests : List StartedRequest)
    (it : FinishedIteration) : Option Recording :=
  it.request.bind fun number =>
    (requestAt requests number).map fun r =>
      ⟨r.path, Duration.ofMillis (it.finish - it.start), (w.client number r.path).outcome⟩

/-- What is recorded of all iterations, in the order of their ends. -/
def recordings {β : Type} (w : Surroundings β) (requests : List StartedRequest)
    (iterations : List FinishedIteration) : List Recording :=
  iterations.reverse.filterMap (recordingOf w requests)

section
variable {β : Type} {w : Surroundings β} {users : List (UserTask β)}
  {requests : List StartedRequest} {iterations : List FinishedIteration} {stopping : Bool}
  {i : Nat} {t : UserTask β}

/-- The next request is not recorded yet. -/
theorem Ledger.recordings_start (hl : Ledger w users requests iterations stopping)
    (r : StartedRequest) :
    recordings w (r :: requests) iterations = recordings w requests iterations := by
  refine List.filterMap_congr fun it hit => ?_
  unfold recordingOf
  rcases hn : it.request with _ | number
  · rfl
  · obtain ⟨-, path, hr⟩ := hl.done it (by simpa using hit) number hn
    rw [Option.bind_some, Option.bind_some, requestAt_cons_of_eq hr, hr]

/-- A request is recorded as its iteration ends. -/
theorem Ledger.recordings_complete (hl : Ledger w users requests iterations stopping)
    (user : users[i]? = some t) {number : Nat} {path : String} {since due : Nat} {outcome : Outcome}
    (phase : t.phase = .requesting number path since due outcome) (finish : Nat) :
    recordings w requests (⟨i, since, finish, some number, none⟩ :: iterations) =
      recordings w requests iterations ++
        [⟨path, Duration.ofMillis (finish - since), outcome⟩] := by
  obtain ⟨hr, ho, -⟩ := hl.flight user phase
  have hnew : recordingOf w requests ⟨i, since, finish, some number, none⟩ =
      some ⟨path, Duration.ofMillis (finish - since), outcome⟩ := by
    simp [recordingOf, hr, ho]
  simp [recordings, hnew]

/-- An iteration without a request is not recorded. -/
theorem recordings_fail (now : Nat) (e : UserError) :
    recordings w requests (⟨i, now, now, none, some e⟩ :: iterations) =
      recordings w requests iterations := by
  simp [recordings, recordingOf]

end

/-- A request whose answer came, but a sum left its range as it was recorded. -/
def Overflowed {β : Type} (users : List (UserTask β)) (requests : List StartedRequest)
    (iterations : List FinishedIteration) (number : Nat) : Prop :=
  ∃ (r : StartedRequest) (t : UserTask β) (o : StatsOverflow),
    requestAt requests number = some r ∧ number ∉ completed iterations ∧
      users[r.user]? = some t ∧ t.phase = .ended (.crashed o.message)

/-- **The statistics are those of the completed requests**, unless a sum left its range. -/
def Recorded {β : Type} (w : Surroundings β) (users : List (UserTask β))
    (requests : List StartedRequest) (iterations : List FinishedIteration) (stats : RequestStats) :
    Prop :=
  (∃ number, Overflowed users requests iterations number) ∨
    recordAll RequestStats.recordOne {} (recordings w requests iterations) = (stats, none)

namespace Overflowed
variable {β : Type} {w : Surroundings β} {users : List (UserTask β)}
  {requests : List StartedRequest} {iterations : List FinishedIteration} {stopping : Bool}
  {i number : Nat} {t : UserTask β}

/-- The user of the request has ended, so that it is none that is at work. -/
theorem set (h : Overflowed users requests iterations number) (user : users[i]? = some t)
    (alive : t.exit? = none) (t' : UserTask β) :
    Overflowed (users.set i t') requests iterations number := by
  obtain ⟨r, u, o, hr, hn, hu, hp⟩ := h
  refine ⟨r, u, o, hr, hn, ?_, hp⟩
  rw [getElem?_set_of_some user, if_neg, hu]
  rintro rfl
  rw [user] at hu; cases hu
  rw [UserTask.exit?_eq_some_iff.2 hp] at alive; cases alive

theorem start (h : Overflowed users requests iterations number) (r : StartedRequest) :
    Overflowed users (r :: requests) iterations number := by
  obtain ⟨r', u, o, hr, h⟩ := h
  exact ⟨r', u, o, requestAt_cons_of_eq hr r, h⟩

/-- The iteration that ends is that of another request. -/
theorem complete (h : Overflowed users requests iterations number)
    (hl : Ledger w users requests iterations stopping) (user : users[i]? = some t)
    {number' : Nat} {path : String} {since due : Nat} {outcome : Outcome}
    (phase : t.phase = .requesting number' path since due outcome) (finish : Nat)
    (t' : UserTask β) :
    Overflowed (users.set i t') requests (⟨i, since, finish, some number', none⟩ :: iterations)
      number := by
  obtain ⟨r, u, o, hr, hn, hu, hp⟩ := h.set user (UserTask.exit?_eq_none_of_requesting phase) t'
  refine ⟨r, u, o, hr, fun hmem => ?_, hu, hp⟩
  rcases List.mem_cons.1 hmem with rfl | hmem
  · -- the request would be that of the user that has just been at work
    have hr' := (hl.flight user phase).1
    rw [hr] at hr'; cases hr'
    obtain ⟨r, u', o', hr', -, hu', hp'⟩ := h
    rw [hr] at hr'; cases hr'
    rw [user] at hu'; cases hu'
    rw [phase] at hp'; cases hp'
  · exact hn hmem

theorem spawn (h : Overflowed users requests iterations number) (b : β) :
    Overflowed (users ++ [{ behavior := b }]) requests iterations number := by
  obtain ⟨r, u, o, hr, hn, hu, hp⟩ := h
  exact ⟨r, u, o, hr, hn,
    by rw [List.getElem?_append_left (List.getElem?_eq_some_iff.1 hu).1, hu], hp⟩

end Overflowed

namespace Recorded
variable {β : Type} {w : Surroundings β} {users : List (UserTask β)}
  {requests : List StartedRequest} {iterations : List FinishedIteration}
  {stats stats' : RequestStats} {stopping : Bool} {i : Nat} {t t' : UserTask β}

theorem set (h : Recorded w users requests iterations stats) (user : users[i]? = some t)
    (alive : t.exit? = none) : Recorded w (users.set i t') requests iterations stats :=
  h.imp_left fun ⟨number, ho⟩ => ⟨number, ho.set user alive t'⟩

theorem start (h : Recorded w users requests iterations stats)
    (hl : Ledger w users requests iterations stopping) (r : StartedRequest) :
    Recorded w users (r :: requests) iterations stats :=
  h.imp (fun ⟨number, ho⟩ => ⟨number, ho.start r⟩) fun h => by rwa [hl.recordings_start]

theorem complete (h : Recorded w users requests iterations stats)
    (hl : Ledger w users requests iterations stopping) (user : users[i]? = some t) {number : Nat}
    {path : String} {since due : Nat} {outcome : Outcome}
    (phase : t.phase = .requesting number path since due outcome) {finish : Nat}
    (record : stats.record path (Duration.ofMillis (finish - since)) outcome = (stats', none)) :
    Recorded w (users.set i t') requests (⟨i, since, finish, some number, none⟩ :: iterations)
      stats' := by
  refine h.imp (fun ⟨n, ho⟩ => ⟨n, ho.complete hl user phase finish t'⟩) fun h => ?_
  rw [hl.recordings_complete user phase, recordAll_concat_eq]
  exact ⟨stats, h, record⟩

theorem overflow (hl : Ledger w users requests iterations stopping) (user : users[i]? = some t)
    {number : Nat} {path : String} {since due : Nat} {outcome : Outcome}
    (phase : t.phase = .requesting number path since due outcome) (o : StatsOverflow) :
    Recorded w (users.set i { t with phase := .ended (.crashed o.message) }) requests iterations
      stats' := by
  obtain ⟨hr, -, hn⟩ := hl.flight user phase
  exact .inl ⟨number, _, _, o, hr, hn, by rw [getElem?_set_of_some user, if_pos rfl], rfl⟩

theorem fail (h : Recorded w users requests iterations stats) (now : Nat) (e : UserError) :
    Recorded w users requests (⟨i, now, now, none, some e⟩ :: iterations) stats := by
  unfold Recorded; rwa [recordings_fail]

theorem spawn (h : Recorded w users requests iterations stats) (b : β) :
    Recorded w (users ++ [{ behavior := b }]) requests iterations stats :=
  h.imp_left fun ⟨number, ho⟩ => ⟨number, ho.spawn b⟩

end Recorded

/-! ## Every change -/

namespace SwarmRun
variable {β : Type} [Behavior β] {w : Surroundings β} {s s' : SwarmRun β}

/-- The requests of a run are accounted for, counted and recorded. -/
structure Books (w : Surroundings β) (s : SwarmRun β) : Prop where
  ledger : Ledger w s.users s.requests s.iterations s.isStopping
  balance : Balance s.users s.requests s.iterations s.made
  recorded : Recorded w s.users s.requests s.iterations s.stats

omit [Behavior β] in
theorem isStopping_triggered (s : SwarmRun β) (reason : String) :
    (s.triggered reason).isStopping = true := Latch.isTriggered_trigger s.latch reason

/-- **Every change keeps the books.** -/
theorem Change.books (hc : Change w s s') (h : Books w s) : Books w s' := by
  obtain ⟨hl, hb, hr⟩ := h
  have begins := @UserTask.exit?_eq_none_of_begins β
  -- the stop, once triggered, changes nothing but what may have become of dropped requests
  have trigger (reason : String) : Ledger w s.users s.requests s.iterations
      (s.triggered reason).isStopping := isStopping_triggered s reason ▸ hl.trigger
  -- a user that begins an iteration keeps no request
  have free {t t' : UserTask β} (turn : t.phase.beginsAt s.now = true) (number : Nat)
      (r : StartedRequest) (hold : t.phase.Holds s.isStopping number r) :
      t'.phase.Holds s.isStopping number r :=
    (UserPhase.not_holds_of_beginsAt turn _ _ _ hold).elim
  cases hc with
  | request i t path b user turn going move =>
    exact ⟨hl.start user turn rfl,
      hb.start user turn { t with behavior := b, phase := s.requestPhase w path } rfl rfl _,
      (hr.start hl _).set user (begins turn)⟩
  | overflow i t number path since due outcome stats o user phase =>
    exact ⟨hl.leave user rfl fun _ _ _ => ⟨o, rfl⟩, hb.end_ user, .overflow hl user phase o⟩
  | answerYield i t number path since due outcome stats user phase _ record
  | answerWait i t number path since due outcome stats d user phase _ record
  | answerCrash i t number path since due outcome stats e user phase _ record =>
    exact ⟨hl.complete user phase rfl _, hb.complete user phase rfl _,
      hr.complete hl user phase record⟩
  | stop i t user alive stopping =>
    exact ⟨hl.leave user rfl fun _ _ _ => stopping, hb.end_ user, hr.set user alive⟩
  | fail i t e b user turn =>
    exact ⟨(hl.leave user rfl (free turn)).fail _ _, (hb.end_ user).fail _ _,
      (hr.set user (begins turn)).fail _ _⟩
  | crash i t message b user turn =>
    exact ⟨hl.leave user rfl (free turn), hb.end_ user, hr.set user (begins turn)⟩
  | spawn i => exact ⟨hl.spawn _, hb.spawn _ _, hr.spawn _⟩
  | endJoining | timeout | trigger => exact ⟨trigger _, hb, hr⟩
  | _ => exact ⟨hl, hb, hr⟩

omit [Behavior β] in
theorem books_begin (w : Surroundings β) (settings : SwarmSettings) (latch : Latch) (start : Nat) :
    Books w (.begin w settings latch start) :=
  ⟨⟨nofun, nofun, nofun, List.nodup_nil, fun h => nomatch (requestAt_lt h)⟩,
    ⟨rfl, Nat.le_refl _, rfl⟩, .inr rfl⟩

/-- **The books are kept in every run**, whatever the order and the pace of its tasks. -/
theorem leads_books {settings : SwarmSettings} {latch : Latch} {start : Nat}
    (h : Leads w (.begin w settings latch start) s) : Books w s :=
  h.induction (fun _ _ _ hs hc => hc.books hs)
    (fun _ _ _ hs => ⟨hs.ledger, hs.balance, hs.recorded⟩) (books_begin w settings latch start)

end SwarmRun

end LoadSwarm
