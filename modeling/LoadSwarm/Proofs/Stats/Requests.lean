/-
  The entries of all names, against the plain list of the requests.

  * `recordAll`: a list of requests, recorded one after the other.
  * `RequestStats.Describes s xs`: a name has an entry if a request of `xs` has it, and the
    entry describes the requests of its name.
  * `RequestStats.Describes.total`: all entries merged describe the whole list.
  * `recordAll_snapshot`: the report of recorded requests states the figures of their list.
-/
import Mathlib
import LoadSwarm.Proofs.Stats.Entry
import LoadSwarm.Proofs.Text.ByteOrder

namespace LoadSwarm

/-! ## Recording a list -/

section
variable {σ : Type} (record : σ → Recording → σ × Option StatsOverflow)

/-- A list of requests recorded one after the other, up to the first sum that leaves its
    range. -/
def recordAll : σ → List Recording → σ × Option StatsOverflow
  | s, [] => (s, none)
  | s, x :: xs =>
    match record s x with
    | (s', none) => recordAll s' xs
    | (s', some o) => (s', some o)

/-- The last request of a list is recorded after the others. -/
theorem recordAll_concat_eq {s s' : σ} {xs : List Recording} {x : Recording} :
    recordAll record s (xs ++ [x]) = (s', none) ↔
      ∃ s₁, recordAll record s xs = (s₁, none) ∧ record s₁ x = (s', none) := by
  induction xs generalizing s with
  | nil =>
    rcases hx : record s x with ⟨s₁, _ | o⟩ <;> simp [recordAll, hx]
  | cons y ys ih =>
    rcases hy : record s y with ⟨s₁, _ | o⟩
    · simpa only [List.cons_append, recordAll, hy] using ih
    · simp [recordAll, hy]

/-- **What one request preserves, a list of them preserves.** -/
theorem recordAll_induction {P : σ → List Recording → Prop} {s₀ : σ} (nil : P s₀ [])
    (concat : ∀ s s' xs x, P s xs → record s x = (s', none) → P s' (xs ++ [x])) :
    ∀ {xs : List Recording} {s : σ}, recordAll record s₀ xs = (s, none) → P s xs := by
  intro xs
  induction xs using List.reverseRecOn with
  | nil => intro s h; cases h; exact nil
  | append_singleton xs x ih =>
    intro s h
    obtain ⟨s₁, h1, hx⟩ := (recordAll_concat_eq record).1 h
    exact concat s₁ s xs x (ih h1) hx

/-- Requests whose sums stay in their ranges are all recorded, if each one is. -/
theorem recordAll_inRange {P : σ → List Recording → Prop} {s₀ : σ} (nil : P s₀ [])
    (concat : ∀ s xs x, P s xs → InRange (xs ++ [x]) →
      ∃ s', record s x = (s', none) ∧ P s' (xs ++ [x])) :
    ∀ {xs : List Recording}, InRange xs → ∃ s, recordAll record s₀ xs = (s, none) ∧ P s xs := by
  intro xs
  induction xs using List.reverseRecOn with
  | nil => exact fun _ => ⟨s₀, rfl, nil⟩
  | append_singleton xs x ih =>
    intro h
    obtain ⟨s, hs, hp⟩ := ih h.of_append
    obtain ⟨s', hx, hp'⟩ := concat s xs x hp h
    exact ⟨s', (recordAll_concat_eq record).2 ⟨s, hs, hx⟩, hp'⟩

end

/-- With one more request, whatever its name. -/
def EntryStats.recordOne (e : EntryStats) (x : Recording) : EntryStats × Option StatsOverflow :=
  e.record x.latency x.outcome

/-- With one more request under its name. -/
def RequestStats.recordOne (s : RequestStats) (x : Recording) :
    RequestStats × Option StatsOverflow :=
  s.record x.name x.latency x.outcome

/-- The requests of one name. -/
def requestsOf (name : String) (xs : List Recording) : List Recording :=
  xs.filter (·.name = name)

theorem InRange.requestsOf {xs : List Recording} (h : InRange xs) (name : String) :
    InRange (requestsOf name xs) :=
  (h.perm (List.filter_append_perm (fun x : Recording => x.name = name) xs).symm).of_append

/-- The requests of the names of a list, name by name. -/
theorem flatMap_requestsOf_perm (xs : List Recording) {names : List String} (hn : names.Nodup) :
    (names.flatMap (requestsOf · xs)).Perm (xs.filter (·.name ∈ names)) := by
  induction names with
  | nil => simp
  | cons n ns ih =>
    obtain ⟨hnn, hns⟩ := List.nodup_cons.1 hn
    have hsplit := List.filter_append_perm (·.name = n) (xs.filter (·.name ∈ n :: ns))
    rw [List.filter_filter, List.filter_filter] at hsplit
    rw [List.flatMap_cons]
    refine ((ih hns).append_left _).trans (List.Perm.trans (List.Perm.of_eq ?_) hsplit)
    congr 1 <;> refine List.filter_congr fun x _ => ?_
    · by_cases hx : x.name = n <;> simp [hx]
    · by_cases hx : x.name = n <;> simp [hx, hnn]

/-! ## One entry -/

theorem EntryStats.recordAll_describes {xs : List Recording} {e : EntryStats}
    (h : recordAll recordOne {} xs = (e, none)) : e.Describes xs :=
  recordAll_induction recordOne .nil (fun _ _ _ _ h hr => h.record hr) h

theorem EntryStats.exists_recordAll {xs : List Recording} (h : InRange xs) :
    ∃ e, recordAll recordOne ({} : EntryStats) xs = (e, none) ∧ e.Describes xs := by
  refine recordAll_inRange recordOne .nil (fun e xs x he hx => ?_) h
  exact ⟨_, Prod.ext rfl (he.record_inRange hx), he.record (Prod.ext rfl (he.record_inRange hx))⟩

/-! ## All entries -/

namespace RequestStats

/-- **The entries are those of a list of requests**: every name that was recorded has one. -/
structure Describes (s : RequestStats) (xs : List Recording) : Prop where
  ascending : s.entries.Ascending
  mem_keys : ∀ name, name ∈ s.entries.keys ↔ ∃ x ∈ xs, x.name = name
  entry : ∀ name, ((s.entries.get? name).getD {}).Describes (requestsOf name xs)

namespace Describes
variable {s s' : RequestStats} {xs ys : List Recording} {x : Recording}

theorem nil : ({} : RequestStats).Describes [] :=
  ⟨List.Pairwise.nil, fun _ => by simp [SortedMap.keys], fun _ => .nil⟩

theorem perm (h : s.Describes xs) (hp : xs.Perm ys) : s.Describes ys :=
  ⟨h.ascending, fun n => by rw [h.mem_keys]; simp only [hp.mem_iff],
    fun n => (h.entry n).perm (hp.filter _)⟩

theorem of_get? (h : s.Describes xs) {name : String} {e : EntryStats}
    (he : s.entries.get? name = some e) : e.Describes (requestsOf name xs) := by
  simpa [he] using h.entry name

/-- **A list of requests has one set of entries.** -/
theorem unique (h : s.Describes xs) (h' : s'.Describes xs) : s = s' := by
  have hent : s.entries = s'.entries := h.ascending.ext h'.ascending fun name => by
    by_cases hn : ∃ x ∈ xs, x.name = name
    · obtain ⟨e, he⟩ := SortedMap.mem_keys_iff.1 ((h.mem_keys name).2 hn)
      obtain ⟨e', he'⟩ := SortedMap.mem_keys_iff.1 ((h'.mem_keys name).2 hn)
      rw [he, he', (h.of_get? he).unique (h'.of_get? he')]
    · rw [SortedMap.get?_eq_none_iff.2 fun hk => hn ((h.mem_keys name).1 hk),
        SortedMap.get?_eq_none_iff.2 fun hk => hn ((h'.mem_keys name).1 hk)]
  cases s; cases s'; exact congrArg _ hent

/-- **Recording a request adds it to the list.** -/
theorem record (h : s.Describes xs) (hr : s.recordOne x = (s', none)) :
    s'.Describes (xs ++ [x]) := by
  obtain ⟨rfl, hnone⟩ := Prod.mk.inj hr
  refine ⟨h.ascending.alter _ _, fun name => ?_, fun name => ?_⟩
  · rw [SortedMap.mem_keys_alter, h.mem_keys]
    constructor
    · rintro (rfl | ⟨y, hy, rfl⟩)
      · exact ⟨x, by simp, rfl⟩
      · exact ⟨y, by simp [hy], rfl⟩
    · rintro ⟨y, hy, rfl⟩
      rcases List.mem_append.1 hy with hy | hy
      · exact Or.inr ⟨y, hy, rfl⟩
      · exact Or.inl (by rw [List.mem_singleton.1 hy])
  · rw [SortedMap.get?_alter h.ascending]
    by_cases hn : x.name = name
    · subst hn
      have hx := (h.entry x.name).record (x := x) (Prod.ext rfl hnone)
      simpa [requestsOf] using hx
    · simpa [requestsOf, hn] using h.entry name

theorem record_inRange (h : s.Describes xs) (hx : InRange (xs ++ [x])) :
    (s.recordOne x).2 = none := by
  refine (h.entry x.name).record_inRange ?_
  have hsplit : requestsOf x.name (xs ++ [x]) = requestsOf x.name xs ++ [x] := by simp [requestsOf]
  exact hsplit ▸ hx.requestsOf x.name

/-- The requests of the names of all entries, name by name, are all requests. -/
theorem flatMap_perm (h : s.Describes xs) :
    (s.entries.toList.flatMap fun e => requestsOf e.1 xs).Perm xs := by
  have hflat : s.entries.toList.flatMap (fun e => requestsOf e.1 xs) =
      s.entries.keys.flatMap (requestsOf · xs) := by
    rw [SortedMap.keys, List.flatMap_map]
  have hall : xs.filter (·.name ∈ s.entries.keys) = xs :=
    List.filter_eq_self.2 fun x hx => decide_eq_true ((h.mem_keys x.name).2 ⟨x, hx, rfl⟩)
  rw [hflat]
  exact (flatMap_requestsOf_perm xs h.ascending.nodup_keys).trans (.of_eq hall)

end Describes

/-! ## The total -/

/-- Merging entries one after the other appends their lists. -/
theorem foldlM_merge_describes (of : String → List Recording) :
    ∀ {l : List (String × EntryStats)} {acc t : EntryStats} {ys : List Recording},
      acc.Describes ys → (∀ e ∈ l, e.2.Describes (of e.1)) →
      l.foldlM (fun acc e => acc.merge e.2) acc = .ok t →
      t.Describes (ys ++ l.flatMap fun e => of e.1) := by
  intro l
  induction l with
  | nil => intro acc t ys h _ ht; cases ht; simpa using h
  | cons e l ih =>
    intro acc t ys h hl ht
    rw [List.foldlM_cons] at ht
    rcases hm : acc.merge e.2 with _ | m
    · rw [hm] at ht; cases ht
    · rw [hm] at ht
      have hm' := h.merge (hl e (by simp)) hm
      simpa using ih hm' (fun e he => hl e (by simp [he])) ht

/-- Entries merge one after the other if the sums over all their lists stay in their ranges. -/
theorem exists_foldlM_merge (of : String → List Recording) :
    ∀ {l : List (String × EntryStats)} {acc : EntryStats} {ys : List Recording},
      acc.Describes ys → (∀ e ∈ l, e.2.Describes (of e.1)) →
      InRange (ys ++ l.flatMap fun e => of e.1) →
      ∃ t, l.foldlM (fun acc e => acc.merge e.2) acc = .ok t := by
  intro l
  induction l with
  | nil => exact fun {acc} _ _ _ _ => ⟨acc, rfl⟩
  | cons e l ih =>
    intro acc ys h hl hr
    rw [List.flatMap_cons, ← List.append_assoc] at hr
    obtain ⟨m, hm⟩ := h.merge_inRange (hl e (by simp)) hr.of_append
    rw [List.foldlM_cons, hm]
    exact ih (h.merge (hl e (by simp)) hm) (fun e he => hl e (by simp [he])) hr

namespace Describes
variable {s : RequestStats} {xs : List Recording}

theorem of_mem (h : s.Describes xs) :
    ∀ e ∈ s.entries.toList, e.2.Describes (requestsOf e.1 xs) :=
  fun _ he => h.of_get? (SortedMap.get?_of_mem h.ascending he)

/-- **All entries together describe the whole list.** -/
theorem total (h : s.Describes xs) {t : EntryStats} (ht : s.total = .ok t) : t.Describes xs :=
  (foldlM_merge_describes (requestsOf · xs) .nil h.of_mem ht).perm h.flatMap_perm

theorem exists_total (h : s.Describes xs) (hr : InRange xs) : ∃ t, s.total = .ok t :=
  exists_foldlM_merge (requestsOf · xs) .nil h.of_mem (hr.perm h.flatMap_perm.symm)

/-- Recording requests adds them to the list. -/
theorem recordAll (h : s.Describes xs) (hr : LoadSwarm.recordAll recordOne s ys = (s', none)) :
    s'.Describes (xs ++ ys) := by
  refine recordAll_induction (P := fun s ys => s.Describes (xs ++ ys)) recordOne
    ((List.append_nil xs).symm ▸ h) (fun _ _ ys x hd hx => ?_) hr
  rw [← List.append_assoc]
  exact hd.record hx

end Describes

theorem recordAll_describes {xs : List Recording} {s : RequestStats}
    (h : recordAll recordOne {} xs = (s, none)) : s.Describes xs :=
  Describes.nil.recordAll h

theorem exists_recordAll {xs : List Recording} (h : InRange xs) :
    ∃ s, recordAll recordOne ({} : RequestStats) xs = (s, none) ∧ s.Describes xs := by
  refine recordAll_inRange recordOne .nil (fun s xs x hs hx => ?_) h
  exact ⟨_, Prod.ext rfl (hs.record_inRange hx), hs.record (Prod.ext rfl (hs.record_inRange hx))⟩

end RequestStats

/-! ## The report -/

/-- **A report states the figures of a list of requests**: one entry for every name, in the order
    of the bytes of the names, and all requests together. -/
structure StatsReport.Describes (r : StatsReport) (xs : List Recording) (elapsed : Duration) :
    Prop where
  ascending : (r.entries.map (·.name)).Pairwise fun a b => utf8Bytes a < utf8Bytes b
  names : ∀ name, name ∈ r.entries.map (·.name) ↔ ∃ x ∈ xs, x.name = name
  entry : ∀ f ∈ r.entries, ∃ e : EntryStats,
    e.Describes (requestsOf f.name xs) ∧ f = e.report "GET" f.name elapsed
  total : ∃ e : EntryStats,
    e.Describes xs ∧ r.total = e.report "" RequestStats.totalName elapsed

namespace RequestStats
variable {s : RequestStats} {xs : List Recording} {startedAt : Timestamp} {elapsed : Duration}
  {r : StatsReport}

theorem snapshot_eq_ok_iff :
    s.snapshot startedAt elapsed = .ok r ↔
      ∃ t, s.total = .ok t ∧
        r = { startedAt := startedAt
              elapsedSecs := elapsed.toFloat
              entries := s.entries.toList.map fun e => e.2.report "GET" e.1 elapsed
              total := t.report "" totalName elapsed } := by
  unfold snapshot
  cases s.total with
  | error o => exact ⟨nofun, fun ⟨_, ht, _⟩ => nomatch ht⟩
  | ok t =>
    constructor
    · intro h; cases h; exact ⟨t, rfl, rfl⟩
    · rintro ⟨t', ht, rfl⟩; cases ht; rfl

theorem snapshot_eq_error_iff {o : StatsOverflow} :
    s.snapshot startedAt elapsed = .error o ↔ s.total = .error o := by
  unfold snapshot
  cases s.total with
  | error o' => constructor <;> (intro h; cases h; rfl)
  | ok t => exact ⟨nofun, nofun⟩

/-- **The report of entries states the figures of their list.** -/
theorem Describes.snapshot (h : s.Describes xs) (hr : s.snapshot startedAt elapsed = .ok r) :
    r.Describes xs elapsed := by
  obtain ⟨t, ht, rfl⟩ := snapshot_eq_ok_iff.1 hr
  have hnames : (s.entries.toList.map fun e => e.2.report "GET" e.1 elapsed).map (·.name) =
      s.entries.keys := by
    rw [List.map_map]; rfl
  refine ⟨?_, ?_, ?_, t, h.total ht, rfl⟩
  · rw [hnames]
    exact h.ascending.imp fun hlt => utf8Bytes_lt_iff.2 hlt
  · intro name; rw [hnames]; exact h.mem_keys name
  · intro f hf
    obtain ⟨e, he, rfl⟩ := List.mem_map.1 hf
    exact ⟨e.2, h.of_mem e he, rfl⟩

end RequestStats

/-- **The statistics of a list of requests are the direct figures of the list.**  If no sum leaves
    its range, everything is recorded, the report states the figures of the list, the merged
    entries are the one entry that records the whole list, and the order of the requests does
    not matter. -/
theorem recordAll_snapshot {xs : List Recording} (h : InRange xs) (startedAt : Timestamp)
    (elapsed : Duration) :
    ∃ (s : RequestStats) (total : EntryStats) (r : StatsReport),
      recordAll RequestStats.recordOne {} xs = (s, none) ∧
      s.snapshot startedAt elapsed = .ok r ∧ r.Describes xs elapsed ∧
      s.total = .ok total ∧ recordAll EntryStats.recordOne {} xs = (total, none) ∧
      ∀ ys, xs.Perm ys → recordAll RequestStats.recordOne {} ys = (s, none) := by
  obtain ⟨s, hs, hd⟩ := RequestStats.exists_recordAll h
  obtain ⟨e, he, hde⟩ := EntryStats.exists_recordAll h
  obtain ⟨t, ht⟩ := hd.exists_total h
  have hte : t = e := (hd.total ht).unique hde
  obtain ⟨r, hr⟩ : ∃ r, s.snapshot startedAt elapsed = .ok r :=
    ⟨_, RequestStats.snapshot_eq_ok_iff.2 ⟨t, ht, rfl⟩⟩
  refine ⟨s, t, r, hs, hr, hd.snapshot hr, ht, hte ▸ he, fun ys hp => ?_⟩
  obtain ⟨s', hs', hd'⟩ := RequestStats.exists_recordAll (h.perm hp)
  rw [hs', hd.unique (hd'.perm hp.symm)]

/-- Three requests of two names: one found, one not found, one that could not be sent. -/
def sampleRequests : List Recording :=
  [⟨"/clusters/b", ⟨30 * nanosPerMilli, by decide⟩, .error (.badUrl "bad")⟩,
   ⟨"/clusters/a", ⟨10 * nanosPerMilli, by decide⟩, .ok ⟨200, 100⟩⟩,
   ⟨"/clusters/a", ⟨20 * nanosPerMilli, by decide⟩, .ok ⟨404, 100⟩⟩]

theorem recordAll_snapshot_sample :
    InRange sampleRequests ∧
      ∃ (s : RequestStats) (total : EntryStats) (r : StatsReport),
        recordAll RequestStats.recordOne {} sampleRequests = (s, none) ∧
        s.snapshot ⟨0, 0⟩ Duration.zero = .ok r ∧ r.Describes sampleRequests Duration.zero ∧
        s.total = .ok total ∧ recordAll EntryStats.recordOne {} sampleRequests = (total, none) ∧
        ∀ ys, sampleRequests.Perm ys → recordAll RequestStats.recordOne {} ys = (s, none) := by
  have hr : InRange sampleRequests := ⟨by decide, by decide, by decide⟩
  exact ⟨hr, recordAll_snapshot hr ⟨0, 0⟩ Duration.zero⟩

end LoadSwarm
