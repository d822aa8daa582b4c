/-
  Maps in the order of their keys, by their look-ups.

  * `SortedMap.Ascending`: the keys strictly increase; `SortedMap.alter` keeps it
    (`Ascending.alter`), and an ascending map is known by its look-ups (`Ascending.ext`).
  * `SortedMap.Tallies m ks`: `m` counts how often each key occurs in `ks`, and has no
    other keys.  Adding one under a key, or a whole tally, is adding to the list
    (`Tallies.addCount`, `Tallies.addAll`); a tally is determined by its list up to order
    (`Tallies.unique`, `Tallies.perm`).
  * `SortedMap.sumOf`: the sum of the numbers under some keys, which counts these keys in the list
    of a tally (`Tallies.sumOf_eq`).
-/
import Mathlib
import LoadSwarm.Stats.SortedMap

namespace LoadSwarm

namespace SortedMap

variable {κ α : Type}

/-- The keys of a map, in their order. -/
def keys (m : SortedMap κ α) : List κ := m.toList.map (·.1)

/-- The numbers under some keys together. -/
def sumOf (m : SortedMap κ Nat) (p : κ → Bool) : Nat :=
  ((m.toList.filter fun e => p e.1).map (·.2)).sum

/-- All numbers together. -/
def sum (m : SortedMap κ Nat) : Nat := m.sumOf fun _ => true

variable [DecidableEq κ]

/-! ## Look-ups -/

theorem get?_cons (j : κ) (a : α) (l : List (κ × α)) (k : κ) :
    (SortedMap.mk ((j, a) :: l)).get? k = if j = k then some a else (SortedMap.mk l).get? k := by
  by_cases h : j = k <;> simp [get?, h]

theorem get?_eq_none_iff {m : SortedMap κ α} {k : κ} : m.get? k = none ↔ k ∉ m.keys := by
  simp only [get?, Option.map_eq_none_iff, List.find?_eq_none, keys, List.mem_map, not_exists,
    not_and, decide_eq_true_eq]

theorem mem_keys_iff {m : SortedMap κ α} {k : κ} : k ∈ m.keys ↔ ∃ a, m.get? k = some a := by
  rw [← Option.isSome_iff_exists, ← Option.ne_none_iff_isSome, Ne, get?_eq_none_iff, not_not]

theorem mem_of_get? {m : SortedMap κ α} {k : κ} {a : α} (h : m.get? k = some a) :
    (k, a) ∈ m.toList := by
  obtain ⟨e, he, rfl⟩ := Option.map_eq_some_iff.1 h
  have hk : e.1 = k := by simpa using List.find?_some he
  exact hk ▸ List.mem_of_find?_eq_some he

/-! ## The order of the keys -/

variable [LT κ]

/-- The keys strictly increase. -/
def Ascending (m : SortedMap κ α) : Prop := m.keys.Pairwise (· < ·)

section
variable [IsStrictTotalOrder κ (· < ·)]

theorem get?_of_mem {m : SortedMap κ α} (hm : m.Ascending) {k : κ} {a : α}
    (h : (k, a) ∈ m.toList) : m.get? k = some a := by
  obtain ⟨l⟩ := m
  induction l with
  | nil => cases h
  | cons e l ih =>
    obtain ⟨j, b⟩ := e
    obtain ⟨hj, hl⟩ := List.pairwise_cons.1 hm
    rw [get?_cons]
    rcases List.mem_cons.1 h with h | h
    · cases h; simp
    · have hjk : j < k := hj k (List.mem_map.2 ⟨(k, a), h, rfl⟩)
      rw [if_neg fun he => irrefl k (he ▸ hjk)]
      exact ih hl h

theorem mem_iff_get? {m : SortedMap κ α} (hm : m.Ascending) {k : κ} {a : α} :
    (k, a) ∈ m.toList ↔ m.get? k = some a :=
  ⟨get?_of_mem hm, mem_of_get?⟩

omit [DecidableEq κ] in
theorem Ascending.nodup_keys {m : SortedMap κ α} (hm : m.Ascending) : m.keys.Nodup :=
  List.Pairwise.imp (fun hlt he => by subst he; exact irrefl _ hlt) hm

/-- **An ascending map is known by its look-ups.** -/
theorem Ascending.ext {m m' : SortedMap κ α} (hm : m.Ascending) (hm' : m'.Ascending)
    (h : ∀ k, m.get? k = m'.get? k) : m = m' := by
  have hp : m.toList.Perm m'.toList :=
    (List.perm_ext_iff_of_nodup hm.nodup_keys.of_map hm'.nodup_keys.of_map).2 fun e => by
      rw [mem_iff_get? hm, mem_iff_get? hm', h]
  have hl : m.toList = m'.toList := hp.eq_of_pairwise
    (fun _ _ _ _ hab hba => absurd hba (asymm hab)) (List.pairwise_map.1 hm) (List.pairwise_map.1 hm')
  cases m; cases m'; exact congrArg _ hl

end

/-! ## Changes of one key -/

variable [DecidableLT κ]

theorem mem_alterList_key {k j : κ} {f : Option α → α} {l : List (κ × α)} :
    j ∈ (alterList k f l).map (·.1) ↔ j = k ∨ j ∈ l.map (·.1) := by
  induction l with
  | nil => simp [alterList]
  | cons e l ih =>
    obtain ⟨i, a⟩ := e
    unfold alterList
    split_ifs with h1 h2
    · subst h1; simp
    · simp
    · simp only [List.map_cons, List.mem_cons, ih]; tauto

theorem mem_keys_alter {m : SortedMap κ α} {k j : κ} {f : Option α → α} :
    j ∈ (m.alter k f).keys ↔ j = k ∨ j ∈ m.keys := mem_alterList_key

variable [IsStrictTotalOrder κ (· < ·)]

theorem Ascending.alter {m : SortedMap κ α} (hm : m.Ascending) (k : κ) (f : Option α → α) :
    (m.alter k f).Ascending := by
  obtain ⟨l⟩ := m
  induction l with
  | nil => simp [Ascending, keys, SortedMap.alter, alterList]
  | cons e l ih =>
    obtain ⟨j, a⟩ := e
    obtain ⟨hj, hl⟩ := List.pairwise_cons.1 hm
    have ih := ih hl
    simp only [Ascending, keys, SortedMap.alter] at ih ⊢
    unfold alterList
    split_ifs with h1 h2
    · exact hm
    · exact List.pairwise_cons.2 ⟨List.forall_mem_cons.2 ⟨h2, fun i hi => trans_of _ h2 (hj i hi)⟩, hm⟩
    · have hjk : j < k := (trichotomous j k).resolve_right
        (not_or.2 ⟨fun he => h1 he.symm, h2⟩)
      refine List.pairwise_cons.2 ⟨fun i hi => ?_, ih⟩
      rcases mem_alterList_key.1 hi with rfl | hi
      · exact hjk
      · exact hj i hi

/-- **Reading after a change.** -/
theorem get?_alter {m : SortedMap κ α} (hm : m.Ascending) (k : κ) (f : Option α → α) (j : κ) :
    (m.alter k f).get? j = if k = j then some (f (m.get? k)) else m.get? j := by
  obtain ⟨l⟩ := m
  induction l with
  | nil => exact get?_cons k (f none) [] j
  | cons e l ih =>
    obtain ⟨i, a⟩ := e
    obtain ⟨hi, hl⟩ := List.pairwise_cons.1 hm
    have ih := ih hl
    simp only [SortedMap.alter] at ih ⊢
    unfold alterList
    split_ifs with h1 h2 h2 h3 h3
    · subst h1; subst h2; simp [get?_cons]
    · subst h1; simp [get?_cons, h2]
    · subst h3
      have hk : (SortedMap.mk l).get? k = none := get?_eq_none_iff.2 fun hk =>
        irrefl k (trans_of _ h2 (hi k hk))
      simp [get?_cons, Ne.symm h1, hk]
    · rw [get?_cons, if_neg h3]
    · subst h3; simp [get?_cons, Ne.symm h1, ih]
    · simp [get?_cons, ih, h3]

/-! ## Tallies -/

section
omit [DecidableLT κ] [IsStrictTotalOrder κ (· < ·)]

/-- A map counts how often each key occurs in a list, and has no other keys. -/
structure Tallies (m : SortedMap κ Nat) (ks : List κ) : Prop where
  ascending : m.Ascending
  get? : ∀ k, m.get? k = if k ∈ ks then some (ks.count k) else none

namespace Tallies
variable {m : SortedMap κ Nat} {ks ks' : List κ}

theorem nil : Tallies ({} : SortedMap κ Nat) [] :=
  ⟨List.Pairwise.nil, fun _ => by simp [SortedMap.get?]⟩

theorem count_eq (h : m.Tallies ks) (k : κ) : m.count k = ks.count k := by
  rw [SortedMap.count, h.get?]
  split_ifs with hk
  · rfl
  · simp [List.count_eq_zero.2 hk]

theorem mem_keys (h : m.Tallies ks) {k : κ} : k ∈ m.keys ↔ k ∈ ks := by
  rw [mem_keys_iff, h.get?]; split_ifs with hk <;> simp [hk]

/-- A tally does not depend on the order of its list. -/
theorem perm (h : m.Tallies ks) (hp : ks.Perm ks') : m.Tallies ks' :=
  ⟨h.ascending, fun k => by rw [h.get?]; simp only [hp.mem_iff, hp.count_eq]⟩

end Tallies

end

namespace Tallies
variable {m m' : SortedMap κ Nat} {ks ks' : List κ}

omit [DecidableLT κ] in
/-- **A list has one tally.** -/
theorem unique (h : m.Tallies ks) (h' : m'.Tallies ks) : m = m' :=
  h.ascending.ext h'.ascending fun k => by rw [h.get?, h'.get?]

/-- Adding a number under a key is adding the key that often. -/
theorem addCount (h : m.Tallies ks) (k : κ) {n : Nat} (hn : 0 < n) :
    (m.addCount k n).Tallies (ks ++ List.replicate n k) := by
  refine ⟨h.ascending.alter k _, fun j => ?_⟩
  have hc : (m.get? k).getD 0 = ks.count k := h.count_eq k
  rw [SortedMap.addCount, get?_alter h.ascending, hc, h.get?]
  by_cases hj : k = j
  · subst hj
    simp [hn.ne']
  · simp [hj, Ne.symm hj, List.count_replicate]

theorem foldl_addCount (l : List (κ × Nat)) (hl : ∀ e ∈ l, 0 < e.2) :
    ∀ {m : SortedMap κ Nat} {ks : List κ}, m.Tallies ks →
      (l.foldl (fun acc e => acc.addCount e.1 e.2) m).Tallies
        (ks ++ l.flatMap fun e => List.replicate e.2 e.1) := by
  induction l with
  | nil => intro m ks h; simpa using h
  | cons e l ih =>
    intro m ks h
    have h1 := h.addCount e.1 (hl e (by simp))
    simpa using ih (fun e' he' => hl e' (by simp [he'])) h1

omit [DecidableLT κ] in
/-- A tally written out, every key as often as it was counted, is its list. -/
theorem flatMap_perm (h : m.Tallies ks) :
    (m.toList.flatMap fun e => List.replicate e.2 e.1).Perm ks := by
  refine List.perm_iff_count.2 fun k => ?_
  rw [← h.count_eq]
  obtain ⟨l⟩ := m
  have hm := h.ascending
  clear h
  induction l with
  | nil => rfl
  | cons e l ih =>
    obtain ⟨j, n⟩ := e
    obtain ⟨hj, hl⟩ := List.pairwise_cons.1 hm
    rw [List.flatMap_cons, List.count_append, ih hl, SortedMap.count, SortedMap.count, get?_cons,
      List.count_replicate]
    by_cases hk : j = k
    · subst hk
      have hnone : (SortedMap.mk l).get? j = none :=
        get?_eq_none_iff.2 fun hmem => irrefl j (hj j hmem)
      simp [hnone]
    · simp [hk]

/-- **Adding a tally is adding its list.** -/
theorem addAll (h : m.Tallies ks) (h' : m'.Tallies ks') : (m.addAll m').Tallies (ks ++ ks') := by
  have hpos : ∀ e ∈ m'.toList, 0 < e.2 := by
    rintro ⟨k, n⟩ he
    have hg := get?_of_mem h'.ascending he
    rw [h'.get?] at hg
    split_ifs at hg with hk
    · cases hg; exact List.count_pos_iff.2 hk
  exact (foldl_addCount m'.toList hpos h).perm (h'.flatMap_perm.append_left ks)

omit [DecidableLT κ] in
/-- **The numbers of a tally under some keys count these keys in its list.** -/
theorem sumOf_eq (h : m.Tallies ks) (p : κ → Bool) : m.sumOf p = ks.countP p := by
  rw [← h.flatMap_perm.countP_eq]
  unfold sumOf
  clear h
  obtain ⟨l⟩ := m
  induction l with
  | nil => rfl
  | cons e l ih =>
    obtain ⟨k, n⟩ := e
    simp only at ih
    rw [List.flatMap_cons, List.countP_append, List.countP_replicate, ← ih]
    by_cases hk : p k = true <;> simp [hk]

omit [DecidableLT κ] in
/-- All numbers of a tally together are the length of its list. -/
theorem sum_eq (h : m.Tallies ks) : m.sum = ks.length := by
  rw [SortedMap.sum, h.sumOf_eq, List.countP_true]

end Tallies

end SortedMap

end LoadSwarm
