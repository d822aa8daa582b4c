/-
  Waits bound the rates of the users of a run.

  * `requestsBy s i`, `iterationsBy s i`: the requests and the iterations of a user, in order.
  * `Paced pace reqs its`: each iteration is that of the request at its place, and there is the pace
    between its end and the next request.  `Paced.length_le` is the number of requests that this
    leaves room for.
  * `UserPhase.KeepsPace`: what a user that waits for something has done so far.
  * `UsersPaced pace users requests iterations`: this for every user of a run; its rules are those
    of the changes of a user (`UsersPaced.request`, `UsersPaced.finish`, `UsersPaced.leave`).
  * `Timely s`: users request after they are made and before the run returns.
  * `RateBound d s`, `reaches_rateBound`: how many requests there are in a run with waits.
-/
import LoadSwarm.Proofs.Swarm.Paths
import LoadSwarm.Proofs.Swarm.Stop

namespace LoadSwarm

/-! ## The requests and iterations of a user -/

/-- What belongs to a user, in order, of a list with the last one first. -/
def entriesOf {α : Type} (user : α → Nat) (l : List α) (i : Nat) : List α :=
  l.reverse.filter fun a => user a = i

section
variable {α : Type} {user : α → Nat} {l : List α} {a : α} {i : Nat}

theorem entriesOf_cons_self (h : user a = i) :
    entriesOf user (a :: l) i = entriesOf user l i ++ [a] := by
  simp [entriesOf, h]

theorem entriesOf_cons_of_ne (h : user a ≠ i) : entriesOf user (a :: l) i = entriesOf user l i := by
  simp [entriesOf, h]

theorem mem_entriesOf : a ∈ entriesOf user l i ↔ a ∈ l ∧ user a = i := by
  simp [entriesOf]

/-- Each entry belongs to one user. -/
theorem sum_length_entriesOf {n : Nat} (h : ∀ a ∈ l, user a < n) :
    ((List.range n).map fun i => (entriesOf user l i).length).sum = l.length := by
  have hcount (i : Nat) : (entriesOf user l i).length = (l.map user).count i := by
    unfold entriesOf
    rw [← List.countP_eq_length_filter, List.countP_reverse, List.count, List.countP_map]
    exact List.countP_congr fun a _ => by simp
  have hsum := Multiset.sum_count_eq_card (s := Finset.range n) (m := (l.map user : Multiset Nat))
    (fun i hi => by
      obtain ⟨a, ha, rfl⟩ := List.mem_map.1 (Multiset.mem_coe.1 hi)
      exact Finset.mem_range.2 (h a ha))
  rw [Multiset.coe_card, List.length_map] at hsum
  rw [← hsum, ← List.sum_toFinset _ List.nodup_range, List.toFinset_range]
  exact Finset.sum_congr rfl fun i _ => by rw [hcount, Multiset.coe_count]

end

namespace SwarmRun
variable {β : Type}

/-- The requests of a user, in order. -/
def requestsBy (s : SwarmRun β) (i : Nat) : List StartedRequest :=
  entriesOf StartedRequest.user s.requests i

/-- The iterations of a user, in order. -/
def iterationsBy (s : SwarmRun β) (i : Nat) : List FinishedIteration :=
  entriesOf FinishedIteration.user s.iterations i

end SwarmRun

/-! ## One user -/

/-- **Each iteration is that of the request at its place, and the next request keeps the pace**, in
    nanoseconds, from its end. -/
structure Paced (pace : Nat) (reqs : List StartedRequest) (its : List FinishedIteration) : Prop where
  enough : reqs.length ≤ its.length + 1
  starts : ∀ (k : Nat) it r, its[k]? = some it → reqs[k]? = some r →
    it.start = r.time ∧ it.start ≤ it.finish
  apart : ∀ (k : Nat) it r, its[k]? = some it → reqs[k + 1]? = some r →
    it.finish * nanosPerMilli + pace ≤ r.time * nanosPerMilli

/-- A user has as many requests as iterations, and may request from a time on. -/
def MayRequest (pace : Nat) (reqs : List StartedRequest) (its : List FinishedIteration)
    (time : Nat) : Prop :=
  its.length = reqs.length ∧ ∀ it, its.getLast? = some it →
    it.finish * nanosPerMilli + pace ≤ time * nanosPerMilli

/-- What a user has done that waits for something, if no iteration follows another one at once. -/
def UserPhase.KeepsPace (pace : Nat) (reqs : List StartedRequest) (its : List FinishedIteration) :
    UserPhase → Prop
  | starting => reqs = [] ∧ its = []
  | yielding => False
  | requesting _ _ since _ _ =>
    reqs.length = its.length + 1 ∧ ∀ r, reqs.getLast? = some r → r.time = since
  | waiting due => MayRequest pace reqs its due
  | ended _ => True

theorem UserPhase.KeepsPace.mayRequest {pace now : Nat} {reqs : List StartedRequest}
    {its : List FinishedIteration} {p : UserPhase} (h : p.KeepsPace pace reqs its)
    (turn : p.beginsAt now = true) : MayRequest pace reqs its now := by
  cases p with
  | starting =>
    obtain ⟨rfl, rfl⟩ := h
    exact ⟨rfl, nofun⟩
  | yielding => exact h.elim
  | waiting due =>
    obtain ⟨hlen, hlast⟩ := h
    exact ⟨hlen, fun it hit =>
      (hlast it hit).trans (Nat.mul_le_mul_right _ (of_decide_eq_true turn))⟩
  | requesting | ended => cases turn

namespace Paced
variable {pace : Nat} {reqs : List StartedRequest} {its : List FinishedIteration}

theorem nil : Paced pace [] [] := ⟨Nat.zero_le _, nofun, nofun⟩

/-- One more request. -/
theorem request (h : Paced pace reqs its) {r : StartedRequest}
    (may : MayRequest pace reqs its r.time) : Paced pace (reqs ++ [r]) its := by
  obtain ⟨hlen, hlast⟩ := may
  refine ⟨by simp [hlen], fun k it r' hit hr => ?_, fun k it r' hit hr => ?_⟩
  · have hk := (List.getElem?_eq_some_iff.1 hit).1
    rw [List.getElem?_append_left (by omega)] at hr
    exact h.starts k it r' hit hr
  · have hk := (List.getElem?_eq_some_iff.1 hit).1
    rcases Nat.lt_or_ge (k + 1) reqs.length with hlt | hge
    · rw [List.getElem?_append_left hlt] at hr
      exact h.apart k it r' hit hr
    · -- the new request follows the last iteration
      have hk' : k + 1 = reqs.length := by omega
      rw [hk', List.getElem?_concat_length] at hr
      cases hr
      refine hlast it ?_
      rw [List.getLast?_eq_getElem?, hlen, ← hk']
      exact hit

/-- One more iteration, which is that of the last request, if there is one to it. -/
theorem finish (h : Paced pace reqs its) {it : FinishedIteration}
    (hit : ∀ r, reqs[its.length]? = some r → it.start = r.time ∧ it.start ≤ it.finish) :
    Paced pace reqs (its ++ [it]) := by
  have henough := h.enough
  refine ⟨by simp; omega, fun k it' r hk hr => ?_, fun k it' r hk hr => ?_⟩
  · rcases Nat.lt_or_ge k its.length with hlt | hge
    · rw [List.getElem?_append_left hlt] at hk
      exact h.starts k it' r hk hr
    · have hk' := (List.getElem?_eq_some_iff.1 hk).1
      rw [List.length_append, List.length_singleton] at hk'
      obtain rfl : k = its.length := by omega
      rw [List.getElem?_concat_length] at hk
      cases hk
      exact hit r hr
  · have hr' := (List.getElem?_eq_some_iff.1 hr).1
    rw [List.getElem?_append_left (by omega)] at hk
    exact h.apart k it' r hk hr

/-- The requests of a user lie the pace apart. -/
theorem le_time (h : Paced pace reqs its) {made : Nat} (since : ∀ r ∈ reqs, made ≤ r.time) :
    ∀ (k : Nat) r, reqs[k]? = some r →
      made * nanosPerMilli + k * pace ≤ r.time * nanosPerMilli := by
  intro k
  induction k with
  | zero =>
    intro r hr
    rw [Nat.zero_mul, Nat.add_zero]
    exact Nat.mul_le_mul_right _ (since r (List.mem_of_getElem? hr))
  | succ k ih =>
    intro r hr
    have hk := (List.getElem?_eq_some_iff.1 hr).1
    have henough := h.enough
    obtain ⟨r₀, hr₀⟩ : ∃ r₀, reqs[k]? = some r₀ := ⟨_, List.getElem?_eq_getElem (by omega)⟩
    obtain ⟨it, hit⟩ : ∃ it, its[k]? = some it := ⟨_, List.getElem?_eq_getElem (by omega)⟩
    obtain ⟨hstart, hle⟩ := h.starts k it r₀ hit hr₀
    calc made * nanosPerMilli + (k + 1) * pace
        = made * nanosPerMilli + k * pace + pace := by rw [Nat.add_mul, Nat.one_mul, Nat.add_assoc]
      _ ≤ r₀.time * nanosPerMilli + pace := Nat.add_le_add_right (ih r₀ hr₀) _
      _ ≤ it.finish * nanosPerMilli + pace :=
          Nat.add_le_add_right (Nat.mul_le_mul_right _ (hstart ▸ hle)) _
      _ ≤ r.time * nanosPerMilli := h.apart k it r hit hr

/-- **There are not more requests than the pace leaves room for.** -/
theorem length_le (h : Paced pace reqs its) (hpace : 0 < pace) {made time : Nat}
    (since : ∀ r ∈ reqs, made ≤ r.time) (until_ : ∀ r ∈ reqs, r.time ≤ time) :
    reqs.length ≤ (time - made) * nanosPerMilli / pace + 1 := by
  rcases hn : reqs.length with _ | n
  · exact Nat.zero_le _
  obtain ⟨r, hr⟩ : ∃ r, reqs[n]? = some r := ⟨_, List.getElem?_eq_getElem (by omega)⟩
  have hle := (h.le_time since n r hr).trans
    (Nat.mul_le_mul_right nanosPerMilli (until_ r (List.mem_of_getElem? hr)))
  refine Nat.succ_le_succ ((Nat.le_div_iff_mul_le hpace).2 ?_)
  rw [Nat.sub_mul]
  omega

end Paced

/-! ## All users -/

/-- **All users keep the pace**, and those that are not made have done nothing. -/
structure UsersPaced {β : Type} (pace : Nat) (users : List (UserTask β))
    (requests : List StartedRequest) (iterations : List FinishedIteration) : Prop where
  paced : ∀ i, Paced pace (entriesOf StartedRequest.user requests i)
    (entriesOf FinishedIteration.user iterations i)
  phase : ∀ (i : Nat) t, users[i]? = some t → t.phase.KeepsPace pace
    (entriesOf StartedRequest.user requests i) (entriesOf FinishedIteration.user iterations i)
  unmade : ∀ i, users.length ≤ i → entriesOf StartedRequest.user requests i = [] ∧
    entriesOf FinishedIteration.user iterations i = []

namespace UsersPaced
variable {β : Type} {pace : Nat} {users : List (UserTask β)} {requests : List StartedRequest}
  {iterations : List FinishedIteration} {i : Nat} {t t' : UserTask β}

/-- A user goes on with one more request. -/
theorem request (h : UsersPaced pace users requests iterations) (user : users[i]? = some t) {now : Nat}
    (turn : t.phase.beginsAt now = true) {path : String} {number due : Nat} {outcome : Outcome}
    (phase : t'.phase = .requesting number path now due outcome) :
    UsersPaced pace (users.set i t') (⟨now, i, path⟩ :: requests) iterations := by
  have may := (h.phase i t user).mayRequest turn
  refine ⟨fun j => ?_, fun j u hu => ?_, fun j hj => ?_⟩
  · by_cases hij : i = j
    · subst hij
      rw [entriesOf_cons_self rfl]
      exact (h.paced i).request may
    · rw [entriesOf_cons_of_ne hij]; exact h.paced j
  · rw [getElem?_set_of_some user] at hu
    split_ifs at hu with hij
    · cases hu; subst hij
      rw [entriesOf_cons_self rfl, phase]
      exact ⟨by simp [may.1], by simp⟩
    · rw [entriesOf_cons_of_ne hij]; exact h.phase j u hu
  · rw [List.length_set] at hj
    have hi := (List.getElem?_eq_some_iff.1 user).1
    rw [entriesOf_cons_of_ne (by dsimp only; omega)]
    exact h.unmade j hj

/-- A user goes on with one more iteration, which is that of its last request, if there is one to
    it. -/
theorem finish (h : UsersPaced pace users requests iterations) (user : users[i]? = some t)
    {it : FinishedIteration} (owner : it.user = i)
    (hit : ∀ r, (entriesOf StartedRequest.user requests i)[(entriesOf FinishedIteration.user
      iterations i).length]? = some r → it.start = r.time ∧ it.start ≤ it.finish)
    (phase : t'.phase.KeepsPace pace (entriesOf StartedRequest.user requests i)
      (entriesOf FinishedIteration.user iterations i ++ [it])) :
    UsersPaced pace (users.set i t') requests (it :: iterations) := by
  refine ⟨fun j => ?_, fun j u hu => ?_, fun j hj => ?_⟩
  · by_cases hij : i = j
    · subst hij
      rw [entriesOf_cons_self owner]
      exact (h.paced i).finish hit
    · rw [entriesOf_cons_of_ne (owner ▸ hij)]; exact h.paced j
  · rw [getElem?_set_of_some user] at hu
    split_ifs at hu with hij
    · cases hu; subst hij
      rw [entriesOf_cons_self owner]; exact phase
    · rw [entriesOf_cons_of_ne (owner ▸ hij)]; exact h.phase j u hu
  · rw [List.length_set] at hj
    have hi := (List.getElem?_eq_some_iff.1 user).1
    rw [entriesOf_cons_of_ne (by rw [owner]; omega)]
    exact h.unmade j hj

/-- The answer to the last request of a user is there, and it waits for the pace, or ends. -/
theorem complete (h : UsersPaced pace users requests iterations) (user : users[i]? = some t)
    {number : Nat} {path : String} {since due : Nat} {outcome : Outcome}
    (busy : t.phase = .requesting number path since due outcome) {now : Nat}
    (past : ∀ r ∈ requests, r.time ≤ now)
    (phase : (∃ next, t'.phase = .waiting next ∧
      now * nanosPerMilli + pace ≤ next * nanosPerMilli) ∨ ∃ exit, t'.phase = .ended exit) :
    UsersPaced pace (users.set i t') requests (⟨i, since, now, some number, none⟩ :: iterations) := by
  have hbusy := h.phase i t user
  rw [busy] at hbusy
  obtain ⟨hlen, hlast⟩ := hbusy
  refine h.finish user rfl (fun r hr => ?_) ?_
  · obtain rfl := hlast r (by rw [List.getLast?_eq_getElem?, hlen]; exact hr)
    exact ⟨rfl, past r (mem_entriesOf.1 (List.mem_of_getElem? hr)).1⟩
  · rcases phase with ⟨next, hphase, hnext⟩ | ⟨exit, hphase⟩
    · rw [hphase]
      refine ⟨by simp [hlen], fun it hit => ?_⟩
      rw [List.getLast?_concat] at hit
      cases hit; exact hnext
    · rw [hphase]; trivial

/-- An iteration of a user comes to no request, and the user ends. -/
theorem fail (h : UsersPaced pace users requests iterations) (user : users[i]? = some t) {now : Nat}
    (turn : t.phase.beginsAt now = true) {e : UserError} {exit : UserExit}
    (phase : t'.phase = .ended exit) :
    UsersPaced pace (users.set i t') requests (⟨i, now, now, none, some e⟩ :: iterations) := by
  have hlen := ((h.phase i t user).mayRequest turn).1
  refine h.finish user rfl (fun r hr => ?_) (by rw [phase]; trivial)
  rw [List.getElem?_eq_none hlen.ge] at hr
  cases hr

/-- A user ends. -/
theorem leave (h : UsersPaced pace users requests iterations) (user : users[i]? = some t)
    {exit : UserExit} (phase : t'.phase = .ended exit) :
    UsersPaced pace (users.set i t') requests iterations := by
  refine ⟨h.paced, fun j u hu => ?_, fun j hj => h.unmade j (by rwa [List.length_set] at hj)⟩
  rw [getElem?_set_of_some user] at hu
  split_ifs at hu with hij
  · cases hu; rw [phase]; trivial
  · exact h.phase j u hu

/-- A user is made. -/
theorem spawn (h : UsersPaced pace users requests iterations) (b : β) :
    UsersPaced pace (users ++ [{ behavior := b }]) requests iterations := by
  refine ⟨h.paced, fun j u hu => ?_, fun j hj => h.unmade j ?_⟩
  · rcases Nat.lt_or_ge j users.length with hlt | hge
    · rw [List.getElem?_append_left hlt] at hu
      exact h.phase j u hu
    · rw [List.getElem?_append_right hge] at hu
      cases List.mem_singleton.1 (List.mem_of_getElem? hu)
      exact h.unmade j hge
  · rw [List.length_append] at hj; omega

end UsersPaced

namespace SwarmRun

variable {β : Type} {w : Surroundings β} {s s' : SwarmRun β} {settings : SwarmSettings}
  {latch : Latch} {start : Nat}

/-! ## Times -/

/-- **Users request after they are made**, and before the run returns. -/
structure Timely (s : SwarmRun β) : Prop where
  order : (s.made.map (·.2)).reverse = List.range s.users.length
  made : ∀ e ∈ s.made, e.1 ≤ s.now
  since : ∀ e ∈ s.made, ∀ r ∈ s.requests, r.user = e.2 → e.1 ≤ r.time
  owner : ∀ r ∈ s.requests, r.user < s.users.length
  past : ∀ r ∈ s.requests, r.time ≤ s.now
  returned : ∀ t result, s.stage = .returned t result → ∀ r ∈ s.requests, r.time ≤ t

variable [Behavior β]

/-- Nothing is requested, and no user is made. -/
theorem Timely.keep (h : Timely s) (hc : Change w s s') (made : s'.made = s.made)
    (requests : s'.requests = s.requests) (users : s'.users.length = s.users.length) :
    Timely s' := by
  refine ⟨?_, ?_, ?_, ?_, ?_, fun t result hst => ?_⟩
  · rw [made, users]; exact h.order
  · rw [made, hc.now_eq]; exact h.made
  · rw [made, requests]; exact h.since
  · rw [requests, users]; exact h.owner
  · rw [requests, hc.now_eq]; exact h.past
  · rw [requests]
    rcases hc.return_cases hst with hold | returns
    · exact h.returned t result hold
    · exact returns.now ▸ h.past

theorem Change.timely (hc : Change w s s') (h : Timely s)
    (hl : Leads w (.begin w settings latch start) s) : Timely s' := by
  have hc' := hc
  cases hc with
  | request i t path b user turn going =>
    have hi := (List.getElem?_eq_some_iff.1 user).1
    have hgoing (t : Nat) (result : Except RunFailure StatsReport)
        (hst : s.stage = .returned t result) : False := by
      rw [stopping_of_returned hl (by rw [hst]; rfl)] at going; cases going
    refine ⟨?_, h.made, fun e he r hr hu => ?_, fun r hr => ?_, fun r hr => ?_,
      fun t result hst => (hgoing t result hst).elim⟩
    · rw [List.length_set]; exact h.order
    · rcases List.mem_cons.1 hr with rfl | hr
      · exact h.made e he
      · exact h.since e he r hr hu
    · rw [List.length_set]
      rcases List.mem_cons.1 hr with rfl | hr
      · exact hi
      · exact h.owner r hr
    · rcases List.mem_cons.1 hr with rfl | hr
      · exact Nat.le_refl _
      · exact h.past r hr
  | spawn i stage room going =>
    -- the next user has not requested anything
    obtain rfl := (leads_followed hl).next i (by rw [stage]; rfl)
    have hlen : (s.spawn w s.users.length).users.length = s.users.length + 1 := List.length_append
    refine ⟨?_, fun e he => ?_, fun e he r hr hu => ?_, fun r hr => ?_, h.past,
      fun t result hst => ?_⟩
    · rw [hlen, List.range_succ, ← h.order]
      exact List.reverse_cons
    · rcases List.mem_cons.1 he with rfl | he
      · exact Nat.le_refl _
      · exact h.made e he
    · rcases List.mem_cons.1 he with rfl | he
      · exact absurd hu (h.owner r hr).ne
      · exact h.since e he r hr hu
    · rw [hlen]; exact Nat.lt_succ_of_lt (h.owner r hr)
    · unfold SwarmRun.spawn at hst
      dsimp only at hst
      split_ifs at hst
  | overflow | answerYield | answerWait | answerCrash | stop | fail | crash =>
    exact h.keep hc' rfl rfl List.length_set
  | _ => exact h.keep hc' rfl rfl rfl

theorem leads_timely (h : Leads w (.begin w settings latch start) s) : Timely s := by
  refine h.induction (P := fun s => Timely s) (fun _ _ hl hs hc => hc.timely hs hl)
    (fun _ _ hle hs => ?_) ?_
  · exact ⟨hs.order, fun e he => (hs.made e he).trans hle, hs.since, hs.owner,
      fun r hr => (hs.past r hr).trans hle, hs.returned⟩
  · constructor <;> simp [SwarmRun.begin]

/-! ## Waits -/

/-- **There is a wait after every iteration of a run, and none that was drawn is shorter than the
    pace**, in nanoseconds, as it is slept. -/
structure SleepsAtLeast (pace : Nat) (w : Surroundings β) (s : SwarmRun β) : Prop where
  always : s.settings.waitTime ≠ .none
  long : ∀ n < s.waits, ∀ x, s.settings.waitTime.next (w.word n) = .ok (some x) →
    pace ≤ s.clock.sleep x * nanosPerMilli

omit [Behavior β] in
theorem SleepsAtLeast.going {pace : Nat} (h : SleepsAtLeast pace w s) (word : UInt64) :
    s.settings.waitTime.next word ≠ .ok none := by
  have hne := h.always
  cases hw : s.settings.waitTime with
  | none => exact absurd hw hne
  | constant d => nofun
  | between least most =>
    unfold WaitTime.next
    dsimp only
    split_ifs
    · nofun
    · split <;> nofun
    · nofun

theorem Change.waits_le (hc : Change w s s') : s.waits ≤ s'.waits := by
  cases hc with
  | answerWait => exact Nat.le_succ _
  | _ => exact Nat.le_refl _

theorem Change.sleepsAtLeast {pace : Nat} (hc : Change w s s') (h : SleepsAtLeast pace w s') :
    SleepsAtLeast pace w s := by
  have hsettings := hc.settings_eq
  refine ⟨hsettings ▸ h.always, fun n hn x hx => ?_⟩
  rw [← hc.clock_eq]
  exact h.long n (hn.trans_le hc.waits_le) x (by rw [hsettings]; exact hx)

theorem Change.usersPaced {pace : Nat} (hc : Change w s s')
    (h : UsersPaced pace s.users s.requests s.iterations) (ht : Timely s)
    (sleeps : SleepsAtLeast pace w s') : UsersPaced pace s'.users s'.requests s'.iterations := by
  have going := (hc.sleepsAtLeast sleeps).going (w.word s.waits)
  cases hc with
  | request i t path b user turn => exact h.request user turn rfl
  | answerYield i t number path since due outcome stats user phase ready record wait =>
    exact absurd wait going
  | answerWait i t number path since due outcome stats d user phase ready record wait =>
    refine h.complete user phase ht.past (.inl ⟨_, rfl, ?_⟩)
    rw [Nat.add_mul]
    exact Nat.add_le_add_left (sleeps.long s.waits (Nat.lt_succ_self _) d wait) _
  | answerCrash i t number path since due outcome stats e user phase =>
    exact h.complete user phase ht.past (.inr ⟨_, rfl⟩)
  | overflow i t number path since due outcome stats o user | stop i t user
  | crash i t message b user =>
    exact h.leave user rfl
  | fail i t e b user turn => exact h.fail user turn rfl
  | spawn i => exact h.spawn _
  | _ => exact h

/-- **In every run with waits, all users keep the pace.** -/
theorem leads_usersPaced {pace : Nat} (h : Leads w (.begin w settings latch start) s)
    (sleeps : SleepsAtLeast pace w s) : UsersPaced pace s.users s.requests s.iterations := by
  refine h.induction
    (P := fun s => SleepsAtLeast pace w s → UsersPaced pace s.users s.requests s.iterations)
    (fun _ _ hl ih hc sleeps => ?_) (fun _ _ _ ih sleeps => ih ⟨sleeps.always, sleeps.long⟩)
    (fun _ => ?_) sleeps
  · exact hc.usersPaced (ih (hc.sleepsAtLeast sleeps)) (leads_timely hl) sleeps
  · exact ⟨fun _ => .nil, nofun, fun _ _ => ⟨rfl, rfl⟩⟩

/-! ## The bound -/

/-- **Waits of a duration bound the rates of users.** -/
structure RateBound (d : Duration) (s : SwarmRun β) : Prop where
  /-- a request of a user starts after the iteration of the request before, and the duration -/
  apart : ∀ i k r, (s.requestsBy i)[k + 1]? = some r →
    ∃ r₀ it, (s.requestsBy i)[k]? = some r₀ ∧ (s.iterationsBy i)[k]? = some it ∧
      it.start = r₀.time ∧ it.start ≤ it.finish ∧
      it.finish * nanosPerMilli + d.nanos ≤ r.time * nanosPerMilli
  /-- so that a user that is made at some time starts this many requests at most -/
  user : ∀ t result made i, s.stage = .returned t result → (made, i) ∈ s.made →
    (s.requestsBy i).length ≤ (t - made) * nanosPerMilli / d.nanos + 1
  /-- and all users together no more than the sum of these -/
  run : ∀ t result, s.stage = .returned t result →
    s.requests.length ≤ (s.made.map fun e => (t - e.1) * nanosPerMilli / d.nanos + 1).sum

/-- **Waits bound the rates of users**, for any answers, any order and pace of the tasks, and any
    moment of the stop, if no wait is shorter than some duration, as long as the clock keeps the
    sleeps. -/
theorem reaches_rateBound (w : Surroundings β) (settings : SwarmSettings) (latch : Latch)
    (start : Nat) (d : Duration) (s : SwarmRun β) (h : Reaches w (.begin w settings latch start) s)
    (pos : 0 < d.nanos)
    (waits : settings.waitTime = .constant d ∨
      (∃ least most, settings.waitTime = .between least most) ∧
        ∀ n < s.waits, ∀ x, settings.waitTime.next (w.word n) = .ok (some x) → d ≤ x)
    (keeps : ∀ n < s.waits, ∀ x, settings.waitTime.next (w.word n) = .ok (some x) →
      w.clock.KeepsSleep x) :
    RateBound d s := by
  have hsettings : s.settings = settings := h.leads.settings_eq
  have sleeps : SleepsAtLeast d.nanos w s := by
    refine ⟨?_, fun n hn x hx => ?_⟩
    · rw [hsettings]
      rcases waits with hw | ⟨⟨least, most, hw⟩, -⟩ <;> (rw [hw]; nofun)
    · rw [hsettings] at hx
      have hle : d.nanos ≤ x.nanos := by
        rcases waits with hw | ⟨-, hlong⟩
        · rw [hw] at hx; cases hx; exact Nat.le_refl _
        · exact hlong n hn x hx
      have hclock : s.clock = w.clock := h.leads.clock_eq
      rw [hclock, keeps n hn x hx]
      unfold Duration.ceilMillis nanosPerMilli
      omega
  have hp := leads_usersPaced h.leads sleeps
  have ht := leads_timely h.leads
  have huser (t : Nat) (result : Except RunFailure StatsReport) (made i : Nat)
      (hst : s.stage = .returned t result) (hmade : (made, i) ∈ s.made) :
      (s.requestsBy i).length ≤ (t - made) * nanosPerMilli / d.nanos + 1 := by
    refine (hp.paced i).length_le pos (fun r hr => ?_) fun r hr => ?_
    · obtain ⟨hr, hu⟩ := mem_entriesOf.1 hr
      exact ht.since _ hmade r hr hu
    · exact ht.returned t result hst r (mem_entriesOf.1 hr).1
  refine ⟨fun i k r hr => ?_, huser, fun t result hst => ?_⟩
  · have hlt := (List.getElem?_eq_some_iff.1 hr).1
    have henough : (s.requestsBy i).length ≤ (s.iterationsBy i).length + 1 := (hp.paced i).enough
    have hr₀ := List.getElem?_eq_getElem (l := s.requestsBy i) (i := k) (by omega)
    have hit := List.getElem?_eq_getElem (l := s.iterationsBy i) (i := k) (by omega)
    obtain ⟨hstart, hle⟩ := (hp.paced i).starts k _ _ hit hr₀
    exact ⟨_, _, hr₀, hit, hstart, hle, (hp.paced i).apart k _ _ hit hr⟩
  · -- every request belongs to one of the users that were made
    calc s.requests.length
        = ((List.range s.users.length).map fun i => (s.requestsBy i).length).sum :=
          (sum_length_entriesOf ht.owner).symm
      _ = (s.made.map fun e => (s.requestsBy e.2).length).sum := by
          rw [← ht.order, List.map_reverse, List.sum_reverse, List.map_map]; rfl
      _ ≤ _ := List.sum_le_sum fun e he => huser t result e.1 e.2 hst he

/-- Answers after ten milliseconds. -/
def tenMillis : Surroundings (User Script) where
  make _ := ⟨⟨["a"]⟩, ⟨[some 0], 0⟩⟩
  client _ _ := { outcome := .ok ⟨200, 1⟩, latency := 10 }

/-- Two requests with a wait between them, and the stop in the second one. -/
def stoppedInSecondRequest : List Action :=
  [.poll .stage fun _ => true, .poll (.user 0) fun _ => true, .advance 10,
    .poll (.user 0) fun _ => true, .advance 30, .poll (.user 0) fun _ => true,
    .trigger "interrupted", .poll (.user 0) fun _ => true, .poll .stage fun _ => true]

theorem reaches_rateBound_twentyMillis :
    let d := Duration.ofMillis 20
    let settings : SwarmSettings := { waitTime := .constant d, statsInterval := none }
    let s := run tenMillis (.begin tenMillis settings {} 0) stoppedInSecondRequest
    Reaches tenMillis (.begin tenMillis settings {} 0) s ∧ 0 < d.nanos ∧
      settings.waitTime = .constant d ∧ (∀ x, tenMillis.clock.KeepsSleep x) ∧
      s.stage.isReturned = true ∧ (s.requestsBy 0).map (·.time) = [0, 30] ∧ RateBound d s := by
  intro d settings s
  have hr : Reaches tenMillis (.begin tenMillis settings {} 0) s := run_reaches _ _
  have pos : 0 < d.nanos := by decide
  have keeps (x : Duration) : tenMillis.clock.KeepsSleep x := Clock.exact_keepsSleep x
  exact ⟨hr, pos, rfl, keeps, by decide +kernel, by decide +kernel,
    reaches_rateBound tenMillis settings {} 0 d s hr pos (.inl rfl) fun _ _ x _ => keeps x⟩

end SwarmRun

end LoadSwarm
