/-
  Latches are flags that are set once and seen by all.

  * `Channels.run`, `Channels.log`: the channels that operations leave, and the lines they log.
  * `Channels.triggers`: the triggers among operations, each with its channel and its reason.
  * `Channels.WellFormed`: handles and listeners belong to channels that exist; every operation
    keeps it (`WellFormed.step`).
  * `latch_step`, `step_handles`, `step_listeners`: what an operation does to the latches and the
    slots; `isTriggered_run` and `log_eq` follow for any number of operations.
  * `Broadcast ops`: what every handle and every listener reports after operations, and what
    stays so.
-/
import Mathlib
import LoadSwarm.Swarm.Event
import LoadSwarm.Swarm.Latch

namespace LoadSwarm

namespace Latch

theorem isTriggered_trigger (l : Latch) (reason : String) :
    (l.trigger reason).isTriggered = true := by
  obtain ⟨_ | r⟩ := l <;> rfl

theorem trigger_of_isTriggered {l : Latch} (h : l.isTriggered = true) (reason : String) :
    l.trigger reason = l := by
  obtain ⟨_ | r⟩ := l
  · cases h
  · rfl

theorem announced?_eq (l : Latch) (reason : String) :
    l.announced? reason = if l.isTriggered = true then none else some reason := by
  obtain ⟨_ | r⟩ := l <;> rfl

end Latch

namespace Channels

/-! ## Sequences of operations -/

/-- The channels after operations. -/
def run (c : Channels) (ops : List ChannelStep) : Channels := ops.foldl (fun c op => (c.step op).1) c

/-- The trigger that an operation makes, if it makes one: its channel and its reason. -/
def trigger? (c : Channels) : ChannelStep → Option (Nat × String)
  | .trigger slot reason => (c.handle? slot).map fun ch => (ch, reason)
  | _ => none

/-- The triggers that operations make, in order. -/
def triggers (c : Channels) : List ChannelStep → List (Nat × String)
  | [] => []
  | op :: ops => (c.trigger? op).toList ++ triggers (c.step op).1 ops

/-- Whether operations trigger a channel. -/
def Triggered (c : Channels) (ops : List ChannelStep) (ch : Nat) : Prop :=
  ∃ reason, (ch, reason) ∈ c.triggers ops

/-- The lines that operations log, in order. -/
def log (c : Channels) : List ChannelStep → List String
  | [] => []
  | op :: ops =>
    ((c.step op).2.2.map fun reason => (SwarmEvent.stopping reason).record.message).toList ++
      log (c.step op).1 ops

/-- Of triggers, the first one of each channel. -/
def firstOfEach : List (Nat × String) → List (Nat × String)
  | [] => []
  | t :: ts => t :: (firstOfEach ts).filter fun u => u.1 ≠ t.1

/-- The channel that an operation is about; a new one has the next number. -/
def channel? (c : Channels) : ChannelStep → Option Nat
  | .create => some c.latches.length
  | .cloneHandle slot | .listen slot | .trigger slot _ | .dropHandle slot => c.handle? slot
  | .cloneListener slot | .poll slot | .dropListener slot => c.listener? slot

variable {c : Channels} {op : ChannelStep} {ops : List ChannelStep} {ch slot : Nat}
  {reason : String}

theorem run_append (c : Channels) (ops more : List ChannelStep) :
    c.run (ops ++ more) = (c.run ops).run more := by unfold run; rw [List.foldl_append]

/-! ## Slots -/

/-- A new slot holds nothing else than what it was made for. -/
theorem of_getElem?_append {l : List (Option Nat)} {new : Option Nat} {i ch : Nat}
    (h : ((l ++ new.toList.map some)[i]?).join = some ch) :
    (l[i]?).join = some ch ∨ new = some ch := by
  rcases lt_or_ge i l.length with hi | hi
  · rw [List.getElem?_append_left hi] at h
    exact .inl h
  · right
    rw [List.getElem?_append_right hi] at h
    rcases new with _ | ch'
    · cases h
    · rcases hn : i - l.length with _ | n
      · rw [hn] at h; exact h
      · rw [hn] at h; cases h

/-- Emptying a slot leaves nothing new in any. -/
theorem of_getElem?_set {l : List (Option Nat)} {i j ch : Nat}
    (h : ((l.set j none)[i]?).join = some ch) : (l[i]?).join = some ch := by
  rw [List.getElem?_set] at h
  split_ifs at h
  · cases h
  · cases h
  · exact h

/-- The channel of the handle that an operation makes, if it makes one. -/
def newHandle? (c : Channels) : ChannelStep → Option Nat
  | .create => some c.latches.length
  | .cloneHandle slot => c.handle? slot
  | _ => none

/-- The channel of the listener that an operation makes, if it makes one. -/
def newListener? (c : Channels) : ChannelStep → Option Nat
  | .listen slot => c.handle? slot
  | .cloneListener slot => c.listener? slot
  | _ => none

/-- An operation drops a handle, or it adds the one that it makes. -/
theorem step_handles (c : Channels) (op : ChannelStep) :
    (c.step op).1.handles = match op with
      | .dropHandle slot => c.handles.set slot none
      | op => c.handles ++ (c.newHandle? op).toList.map some := by
  cases op with
  | create => rfl
  | cloneHandle slot | listen slot | trigger slot =>
    simp only [step, newHandle?]
    cases c.handle? slot <;> simp
  | cloneListener slot | poll slot =>
    simp only [step, newHandle?]
    cases c.listener? slot <;> simp
  | dropHandle slot =>
    simp only [step]
    split_ifs with h
    · rfl
    · exact (List.set_eq_of_length_le (not_lt.1 h)).symm
  | dropListener slot =>
    simp only [step, newHandle?]
    split_ifs <;> simp

theorem step_listeners (c : Channels) (op : ChannelStep) :
    (c.step op).1.listeners = match op with
      | .dropListener slot => c.listeners.set slot none
      | op => c.listeners ++ (c.newListener? op).toList.map some := by
  cases op with
  | create => simp [step, newListener?]
  | cloneHandle slot | listen slot | trigger slot =>
    simp only [step, newListener?]
    cases c.handle? slot <;> simp
  | cloneListener slot | poll slot =>
    simp only [step, newListener?]
    cases c.listener? slot <;> simp
  | dropListener slot =>
    simp only [step]
    split_ifs with h
    · rfl
    · exact (List.set_eq_of_length_le (not_lt.1 h)).symm
  | dropHandle slot =>
    simp only [step, newListener?]
    split_ifs <;> simp

theorem handle?_of_step (h : (c.step op).1.handle? slot = some ch) :
    c.handle? slot = some ch ∨ c.newHandle? op = some ch := by
  unfold handle? at h
  rw [step_handles] at h
  cases op with
  | dropHandle => exact .inl (of_getElem?_set h)
  | _ => exact of_getElem?_append h

theorem listener?_of_step (h : (c.step op).1.listener? slot = some ch) :
    c.listener? slot = some ch ∨ c.newListener? op = some ch := by
  unfold listener? at h
  rw [step_listeners] at h
  cases op with
  | dropListener => exact .inl (of_getElem?_set h)
  | _ => exact of_getElem?_append h

/-- **A slot keeps its handle until the handle is dropped.** -/
theorem getElem?_handles_step {o : Option Nat} (h : c.handles[slot]? = some o) (op : ChannelStep) :
    (c.step op).1.handles[slot]? = some (if op = .dropHandle slot then none else o) := by
  have hlt := (List.getElem?_eq_some_iff.1 h).1
  rw [step_handles]
  cases op with
  | dropHandle slot' =>
    dsimp only
    rw [List.getElem?_set]
    simp only [ChannelStep.dropHandle.injEq]
    split_ifs with hs hlt'
    · rfl
    · exact absurd (hs ▸ hlt) hlt'
    · exact h
  | _ => exact (List.getElem?_append_left hlt).trans h

/-- **A slot keeps its listener until the listener is dropped.** -/
theorem getElem?_listeners_step {o : Option Nat} (h : c.listeners[slot]? = some o)
    (op : ChannelStep) :
    (c.step op).1.listeners[slot]? = some (if op = .dropListener slot then none else o) := by
  have hlt := (List.getElem?_eq_some_iff.1 h).1
  rw [step_listeners]
  cases op with
  | dropListener slot' =>
    dsimp only
    rw [List.getElem?_set]
    simp only [ChannelStep.dropListener.injEq]
    split_ifs with hs hlt'
    · rfl
    · exact absurd (hs ▸ hlt) hlt'
    · exact h
  | _ => exact (List.getElem?_append_left hlt).trans h

/-! ## Channels that exist -/

/-- Handles and listeners belong to channels that exist. -/
structure WellFormed (c : Channels) : Prop where
  handle : ∀ {slot ch}, c.handle? slot = some ch → ch < c.latches.length
  listener : ∀ {slot ch}, c.listener? slot = some ch → ch < c.latches.length

theorem wellFormed_initial : initial.WellFormed where
  handle {slot ch} h := by
    rcases slot with _ | slot
    · cases h; decide
    · cases h
  listener h := by cases h

/-- **An operation changes the latch that it triggers**, and no other. -/
theorem latch_step (hc : c.WellFormed) (op : ChannelStep) (ch : Nat) :
    (c.step op).1.latch ch = match c.trigger? op with
      | some (ch', reason) => if ch' = ch then (c.latch ch).trigger reason else c.latch ch
      | none => c.latch ch := by
  cases op with
  | create =>
    simp only [step, trigger?, latch, List.getD_eq_getElem?_getD]
    rcases lt_trichotomy ch c.latches.length with h | rfl | h
    · rw [List.getElem?_append_left h]
    · simp
    · rw [List.getElem?_eq_none_iff.2 (by simp; omega), List.getElem?_eq_none_iff.2 h.le]
  | trigger slot reason =>
    simp only [step, trigger?]
    rcases hh : c.handle? slot with _ | ch'
    · rfl
    · simp only [latch, Option.map_some, List.getD_eq_getElem?_getD, List.getElem?_set]
      split_ifs with heq hlt
      · rw [heq]; rfl
      · exact absurd (hc.handle hh) hlt
      · rfl
  | cloneHandle slot | listen slot =>
    simp only [step, trigger?]
    cases c.handle? slot <;> rfl
  | cloneListener slot | poll slot =>
    simp only [step, trigger?]
    cases c.listener? slot <;> rfl
  | dropHandle slot | dropListener slot =>
    simp only [step, trigger?]
    split_ifs <;> rfl

theorem length_latches_step (c : Channels) (op : ChannelStep) :
    c.latches.length ≤ (c.step op).1.latches.length := by
  cases op with
  | create => simp [step]
  | cloneHandle slot | listen slot | trigger slot =>
    simp only [step]
    cases c.handle? slot <;> simp
  | cloneListener slot | poll slot =>
    simp only [step]
    cases c.listener? slot <;> simp
  | dropHandle slot | dropListener slot =>
    simp only [step]
    split_ifs <;> simp

theorem lt_of_newHandle? (hc : c.WellFormed) (h : c.newHandle? op = some ch) :
    ch < (c.step op).1.latches.length := by
  cases op with
  | create => cases h; simp [step]
  | cloneHandle slot => exact (hc.handle h).trans_le (length_latches_step c _)
  | _ => cases h

theorem lt_of_newListener? (hc : c.WellFormed) (h : c.newListener? op = some ch) :
    ch < (c.step op).1.latches.length := by
  cases op with
  | listen slot => exact (hc.handle h).trans_le (length_latches_step c _)
  | cloneListener slot => exact (hc.listener h).trans_le (length_latches_step c _)
  | _ => cases h

/-- **Every operation keeps the channels well-formed.** -/
theorem WellFormed.step (hc : c.WellFormed) (op : ChannelStep) : (c.step op).1.WellFormed where
  handle h := by
    rcases handle?_of_step h with h | h
    · exact (hc.handle h).trans_le (length_latches_step c op)
    · exact lt_of_newHandle? hc h
  listener h := by
    rcases listener?_of_step h with h | h
    · exact (hc.listener h).trans_le (length_latches_step c op)
    · exact lt_of_newListener? hc h

theorem WellFormed.run (hc : c.WellFormed) (ops : List ChannelStep) : (c.run ops).WellFormed := by
  induction ops generalizing c with
  | nil => exact hc
  | cons op ops ih => exact ih (hc.step op)

/-! ## Triggers -/

theorem isTriggered_step (hc : c.WellFormed) (op : ChannelStep) (ch : Nat) :
    ((c.step op).1.latch ch).isTriggered = true ↔
      (c.latch ch).isTriggered = true ∨ ∃ reason, c.trigger? op = some (ch, reason) := by
  rw [latch_step hc]
  rcases c.trigger? op with _ | ⟨ch', reason⟩
  · simp
  · dsimp only
    split_ifs with h
    · subst h; simp [Latch.isTriggered_trigger]
    · simp [h]

theorem triggered_cons : c.Triggered (op :: ops) ch ↔
    (∃ reason, c.trigger? op = some (ch, reason)) ∨ (c.step op).1.Triggered ops ch := by
  simp only [Triggered, triggers, List.mem_append, Option.mem_toList, exists_or]

/-- **A latch is triggered if it was, or if an operation has triggered it.** -/
theorem isTriggered_run (hc : c.WellFormed) (ops : List ChannelStep) (ch : Nat) :
    ((c.run ops).latch ch).isTriggered = true ↔
      (c.latch ch).isTriggered = true ∨ c.Triggered ops ch := by
  induction ops generalizing c with
  | nil => simp [run, Triggered, triggers]
  | cons op ops ih =>
    have hrun : c.run (op :: ops) = (c.step op).1.run ops := rfl
    rw [hrun, ih (hc.step op), isTriggered_step hc, triggered_cons, or_assoc]

/-- The operation that triggers a latch first announces it. -/
theorem step_announced (c : Channels) (op : ChannelStep) :
    (c.step op).2.2 = (c.trigger? op).bind fun t => (c.latch t.1).announced? t.2 := by
  cases op with
  | create => rfl
  | cloneHandle slot | listen slot | trigger slot =>
    simp only [step, trigger?]
    cases c.handle? slot <;> rfl
  | cloneListener slot | poll slot =>
    simp only [step, trigger?]
    cases c.listener? slot <;> rfl
  | dropHandle slot | dropListener slot =>
    simp only [step, trigger?]
    split_ifs <;> rfl

/-- The first triggers of some channels are among the first triggers of all. -/
theorem firstOfEach_filter (p : Nat → Bool) (ts : List (Nat × String)) :
    firstOfEach (ts.filter fun t => p t.1) = (firstOfEach ts).filter fun t => p t.1 := by
  induction ts with
  | nil => rfl
  | cons t ts ih =>
    rcases hp : p t.1 with _ | _
    · rw [List.filter_cons_of_neg (by simp [hp]), ih, firstOfEach,
        List.filter_cons_of_neg (by simp [hp]), List.filter_filter]
      refine List.filter_congr fun u _ => ?_
      by_cases hu : u.1 = t.1 <;> simp [hu, hp]
    · rw [List.filter_cons_of_pos (by simp [hp]), firstOfEach, ih, firstOfEach,
        List.filter_cons_of_pos (by simp [hp]), List.filter_filter, List.filter_filter]
      simp only [Bool.and_comm]

/-- **The log has one line for the first trigger of each channel**, of those that were not
    triggered before. -/
theorem log_eq (hc : c.WellFormed) (ops : List ChannelStep) :
    c.log ops =
      (firstOfEach ((c.triggers ops).filter fun t => !(c.latch t.1).isTriggered)).map fun t =>
        "Stopping swarm: " ++ t.2 := by
  induction ops generalizing c with
  | nil => rfl
  | cons op ops ih =>
    have hlatch := latch_step hc op
    rw [log, ih (hc.step op), step_announced, triggers]
    rcases hop : c.trigger? op with _ | ⟨ch', reason⟩
    · simp only [hop] at hlatch
      simp only [hlatch, Option.bind_none, Option.map_none, Option.toList_none, List.nil_append]
    · simp only [hop] at hlatch
      rw [Option.bind_some, Latch.announced?_eq, Option.toList_some, List.singleton_append]
      rcases ht : (c.latch ch').isTriggered with _ | _
      · -- the first trigger of its channel: later ones of that channel are not logged
        have hlater (ch : Nat) : (!((c.step op).1.latch ch).isTriggered) =
            (decide (ch ≠ ch') && !(c.latch ch).isTriggered) := by
          rw [hlatch]
          split_ifs with h
          · subst h; simp [Latch.isTriggered_trigger]
          · simp [Ne.symm h]
        have hfirst := firstOfEach_filter (fun ch => decide (ch ≠ ch'))
          (((c.step op).1.triggers ops).filter fun t => !(c.latch t.1).isTriggered)
        rw [List.filter_filter] at hfirst
        rw [List.filter_cons_of_pos (by simp [ht]), firstOfEach, ← hfirst]
        simp only [hlater]
        rfl
      · have hsame (ch : Nat) : (c.step op).1.latch ch = c.latch ch := by
          rw [hlatch]
          split_ifs with h
          · subst h; exact Latch.trigger_of_isTriggered ht reason
          · rfl
        rw [List.filter_cons_of_neg (by simp [ht])]
        simp only [hsame]
        rfl

example :
    initial.log [.create, .trigger 1 "full", .trigger 0 "interrupted", .trigger 1 "again"] =
      ["Stopping swarm: full", "Stopping swarm: interrupted"] := by decide +kernel

/-- The first trigger of a channel is the only one of it that is kept. -/
theorem filter_firstOfEach (ch : Nat) (ts : List (Nat × String)) :
    (firstOfEach ts).filter (fun t => t.1 = ch) = (ts.filter fun t => t.1 = ch).take 1 := by
  induction ts with
  | nil => rfl
  | cons t ts ih =>
    by_cases ht : t.1 = ch
    · simp [firstOfEach, ht]
    · have hsame : (firstOfEach ts).filter (fun u => decide (u.1 = ch) && decide (u.1 ≠ t.1)) =
          (firstOfEach ts).filter fun u => u.1 = ch :=
        List.filter_congr fun u _ => by
          by_cases hu : u.1 = ch
          · simp [hu, Ne.symm ht]
          · simp [hu]
      rw [firstOfEach, List.filter_cons_of_neg (by simpa using ht), List.filter_filter, hsame, ih,
        List.filter_cons_of_neg (by simpa using ht)]

/-! ## What handles and listeners report -/

theorem hasHandle_iff : c.hasHandle ch = true ↔ ∃ slot, c.handle? slot = some ch := by
  simp only [hasHandle, handle?, List.contains_iff_mem, List.mem_iff_getElem?,
    Option.join_eq_some_iff]

theorem getElem?_handleViews (h : c.handle? slot = some ch) :
    c.handleViews[slot]? = some (some (c.latch ch).isTriggered) := by
  rw [handleViews, List.getElem?_map, Option.join_eq_some_iff.1 h]; rfl

theorem getElem?_listenerViews (h : c.listener? slot = some ch) :
    c.listenerViews[slot]? = some (some (c.latch ch).isTriggered) := by
  rw [listenerViews, List.getElem?_map, Option.join_eq_some_iff.1 h]; rfl

theorem exists_of_handleViews {b : Bool} (h : c.handleViews[slot]? = some (some b)) :
    ∃ ch, c.handle? slot = some ch ∧ (c.latch ch).isTriggered = b := by
  rw [handleViews, List.getElem?_map] at h
  obtain ⟨o, ho, hview⟩ := Option.map_eq_some_iff.1 h
  obtain ⟨ch, rfl, hb⟩ := Option.map_eq_some_iff.1 hview
  exact ⟨ch, Option.join_eq_some_iff.2 ho, hb⟩

theorem exists_of_listenerViews {b : Bool} (h : c.listenerViews[slot]? = some (some b)) :
    ∃ ch, c.listener? slot = some ch ∧ (c.latch ch).isTriggered = b := by
  rw [listenerViews, List.getElem?_map] at h
  obtain ⟨o, ho, hview⟩ := Option.map_eq_some_iff.1 h
  obtain ⟨ch, rfl, hb⟩ := Option.map_eq_some_iff.1 hview
  exact ⟨ch, Option.join_eq_some_iff.2 ho, hb⟩

/-- A poll answers for its channel, and changes nothing. -/
theorem step_poll (h : c.listener? slot = some ch) :
    c.step (.poll slot) = (c, .over ((c.latch ch).isTriggered || !c.hasHandle ch), none) := by
  simp only [step, h]

/-- **Once no handle can trigger a channel, none ever can.** -/
theorem hasHandle_step (hch : ch < c.latches.length)
    (h : c.hasHandle ch = false) (op : ChannelStep) : (c.step op).1.hasHandle ch = false := by
  by_contra hno
  obtain ⟨slot, hslot⟩ := hasHandle_iff.1 (by simpa using hno)
  have none_ {slot : Nat} : c.handle? slot ≠ some ch := fun hs => by
    rw [hasHandle_iff.2 ⟨slot, hs⟩] at h; cases h
  rcases handle?_of_step hslot with hold | hnew
  · exact none_ hold
  · cases op with
    | create => cases hnew; exact lt_irrefl _ hch
    | cloneHandle from_ => exact none_ hnew
    | _ => cases hnew

/-- A slot that is filled stays as it is, or becomes empty. -/
theorem getElem?_run (slots : Channels → List (Option Nat))
    (hstep : ∀ (c : Channels) (op : ChannelStep) (o : Option Nat), (slots c)[slot]? = some o →
      (slots (c.step op).1)[slot]? = some o ∨ (slots (c.step op).1)[slot]? = some none)
    {o : Option Nat} (h : (slots c)[slot]? = some o) (ops : List ChannelStep) :
    (slots (c.run ops))[slot]? = some o ∨ (slots (c.run ops))[slot]? = some none := by
  induction ops generalizing c o with
  | nil => exact .inl h
  | cons op ops ih =>
    rcases hstep c op o h with hkept | hgone
    · exact ih hkept
    · exact .inr ((or_self_iff).1 (ih hgone))

theorem hasHandle_run (hch : ch < c.latches.length) (h : c.hasHandle ch = false)
    (ops : List ChannelStep) : (c.run ops).hasHandle ch = false := by
  induction ops generalizing c with
  | nil => exact h
  | cons op ops ih =>
    exact ih (hch.trans_le (length_latches_step c op)) (hasHandle_step hch h op)

theorem handles_run (h : c.handle? slot = some ch) (ops : List ChannelStep) :
    (c.run ops).handle? slot = some ch ∨ (c.run ops).handles[slot]? = some none := by
  refine (getElem?_run handles (fun c op o ho => ?_)
    (Option.join_eq_some_iff.1 h) ops).imp_left Option.join_eq_some_iff.2
  rw [getElem?_handles_step ho]
  split_ifs
  · exact .inr rfl
  · exact .inl rfl

theorem listeners_run (h : c.listener? slot = some ch) (ops : List ChannelStep) :
    (c.run ops).listener? slot = some ch ∨ (c.run ops).listeners[slot]? = some none := by
  refine (getElem?_run listeners (fun c op o ho => ?_)
    (Option.join_eq_some_iff.1 h) ops).imp_left Option.join_eq_some_iff.2
  rw [getElem?_listeners_step ho]
  split_ifs
  · exact .inr rfl
  · exact .inl rfl

/-! ## What operations on other channels leave alone -/

theorem trigger?_eq_some (h : c.trigger? op = some (ch, reason)) : c.channel? op = some ch := by
  cases op with
  | trigger slot r =>
    obtain ⟨ch', hch, heq⟩ := Option.map_eq_some_iff.1 h
    cases heq; exact hch
  | _ => cases h

theorem latch_step_of_ne (hc : c.WellFormed) (h : c.channel? op ≠ some ch) :
    (c.step op).1.latch ch = c.latch ch := by
  rw [latch_step hc]
  split
  · next ch' reason hop =>
    rw [if_neg]
    rintro rfl
    exact h (trigger?_eq_some hop)
  · rfl

theorem handle?_step_of_ne (h : c.channel? op ≠ some ch) (hslot : c.handle? slot = some ch) :
    (c.step op).1.handle? slot = some ch := by
  have hkept := getElem?_handles_step (Option.join_eq_some_iff.1 hslot) op
  rw [if_neg] at hkept
  · exact Option.join_eq_some_iff.2 hkept
  · rintro rfl
    exact h hslot

theorem listener?_step_of_ne (h : c.channel? op ≠ some ch) (hslot : c.listener? slot = some ch) :
    (c.step op).1.listener? slot = some ch := by
  have hkept := getElem?_listeners_step (Option.join_eq_some_iff.1 hslot) op
  rw [if_neg] at hkept
  · exact Option.join_eq_some_iff.2 hkept
  · rintro rfl
    exact h hslot

/-- A new handle is one of the channel that the operation is about. -/
theorem channel?_of_newHandle? (h : c.newHandle? op = some ch) : c.channel? op = some ch := by
  cases op with
  | create | cloneHandle => exact h
  | _ => cases h

theorem hasHandle_step_of_ne (h : c.channel? op ≠ some ch) :
    (c.step op).1.hasHandle ch = c.hasHandle ch := by
  rw [Bool.eq_iff_iff, hasHandle_iff, hasHandle_iff]
  constructor
  · rintro ⟨slot, hslot⟩
    rcases handle?_of_step hslot with hold | hnew
    · exact ⟨slot, hold⟩
    · exact absurd (channel?_of_newHandle? hnew) h
  · rintro ⟨slot, hslot⟩
    exact ⟨slot, handle?_step_of_ne h hslot⟩

/-! ## Broadcast -/

/-- **What handles and listeners report after operations**, and what stays so. -/
structure Broadcast (ops : List ChannelStep) : Prop where
  /-- a handle reports whether its channel was triggered -/
  handle : ∀ (slot ch : Nat), (initial.run ops).handle? slot = some ch →
    ∃ b, (initial.run ops).handleViews[slot]? = some (some b) ∧
      (b = true ↔ initial.Triggered ops ch)
  /-- a listener reports whether its channel was triggered -/
  listener : ∀ (slot ch : Nat), (initial.run ops).listener? slot = some ch →
    ∃ b, (initial.run ops).listenerViews[slot]? = some (some b) ∧
      (b = true ↔ initial.Triggered ops ch)
  /-- the wait of a listener is over if its channel was triggered, or has no handle any more -/
  wait : ∀ (slot ch : Nat), (initial.run ops).listener? slot = some ch →
    ∃ b, (initial.run ops).step (.poll slot) = (initial.run ops, .over b, none) ∧
      (b = true ↔
        initial.Triggered ops ch ∨ ∀ slot', (initial.run ops).handle? slot' ≠ some ch)
  /-- a handle goes on to report a trigger until it is dropped -/
  handle_lasting : ∀ (slot : Nat) (more : List ChannelStep),
    (initial.run ops).handleViews[slot]? = some (some true) →
    (initial.run (ops ++ more)).handleViews[slot]? = some (some true) ∨
      (initial.run (ops ++ more)).handleViews[slot]? = some none
  listener_lasting : ∀ (slot : Nat) (more : List ChannelStep),
    (initial.run ops).listenerViews[slot]? = some (some true) →
    (initial.run (ops ++ more)).listenerViews[slot]? = some (some true) ∨
      (initial.run (ops ++ more)).listenerViews[slot]? = some none
  /-- a wait that is over stays over, until its listener is dropped -/
  wait_lasting : ∀ (slot : Nat) (more : List ChannelStep),
    ((initial.run ops).step (.poll slot)).2.1 = .over true →
    ((initial.run (ops ++ more)).step (.poll slot)).2.1 = .over true ∨
      (initial.run (ops ++ more)).listenerViews[slot]? = some none
  /-- the log has one line for each channel that was triggered, with the reason of the first
      trigger -/
  log : initial.log ops =
    (firstOfEach (initial.triggers ops)).map fun t => "Stopping swarm: " ++ t.2
  once : ∀ ch, (firstOfEach (initial.triggers ops)).filter (fun t => t.1 = ch) =
    ((initial.triggers ops).filter fun t => t.1 = ch).take 1
  /-- an operation on one channel changes nothing of what another one reports -/
  apart : ∀ (op : ChannelStep) (ch slot : Nat), (initial.run ops).channel? op ≠ some ch →
    ((initial.run ops).handle? slot = some ch →
      ((initial.run ops).step op).1.handleViews[slot]? = (initial.run ops).handleViews[slot]?) ∧
    ((initial.run ops).listener? slot = some ch →
      ((initial.run ops).step op).1.listenerViews[slot]? =
        (initial.run ops).listenerViews[slot]? ∧
      (((initial.run ops).step op).1.step (.poll slot)).2.1 =
        ((initial.run ops).step (.poll slot)).2.1)

/-- **Channels are flags that are set once and seen by all their handles and listeners**, whatever
    the operations on them. -/
theorem run_broadcast (ops : List ChannelStep) : Broadcast ops := by
  have hc := wellFormed_initial.run ops
  -- no latch was triggered before the first operation
  have untriggered (ch : Nat) : (initial.latch ch).isTriggered = false := by
    rcases ch with _ | ch <;> rfl
  have triggered_iff (ch : Nat) :
      ((initial.run ops).latch ch).isTriggered = true ↔ initial.Triggered ops ch := by
    rw [isTriggered_run wellFormed_initial, untriggered]; simp
  have lasting (ch : Nat) (more : List ChannelStep)
      (h : ((initial.run ops).latch ch).isTriggered = true) :
      ((initial.run (ops ++ more)).latch ch).isTriggered = true := by
    rw [run_append, isTriggered_run hc]; exact .inl h
  refine
    { handle := fun slot ch h => ⟨_, getElem?_handleViews h, triggered_iff ch⟩
      listener := fun slot ch h => ⟨_, getElem?_listenerViews h, triggered_iff ch⟩
      wait := fun slot ch h => ⟨_, step_poll h, ?_⟩
      handle_lasting := fun slot more h => ?_
      listener_lasting := fun slot more h => ?_
      wait_lasting := fun slot more h => ?_
      log := ?_
      once := fun ch => filter_firstOfEach ch _
      apart := fun op ch slot hne => ⟨fun h => ?_, fun h => ⟨?_, ?_⟩⟩ }
  · rw [Bool.or_eq_true, triggered_iff, Bool.not_eq_true', ← Bool.not_eq_true, hasHandle_iff,
      not_exists]
  · obtain ⟨ch, hslot, htrig⟩ := exists_of_handleViews h
    rw [run_append]
    rcases handles_run hslot more with hlive | hgone
    · rw [getElem?_handleViews hlive, ← run_append, lasting ch more htrig]; exact .inl rfl
    · rw [handleViews, List.getElem?_map, hgone]; exact .inr rfl
  · obtain ⟨ch, hslot, htrig⟩ := exists_of_listenerViews h
    rw [run_append]
    rcases listeners_run hslot more with hlive | hgone
    · rw [getElem?_listenerViews hlive, ← run_append, lasting ch more htrig]; exact .inl rfl
    · rw [listenerViews, List.getElem?_map, hgone]; exact .inr rfl
  · -- a poll that answers has a listener
    rcases hslot : (initial.run ops).listener? slot with _ | ch
    · simp [step, hslot] at h
    rw [step_poll hslot] at h
    rw [run_append]
    rcases listeners_run hslot more with hlive | hgone
    · left
      rw [step_poll hlive, ← run_append]
      rcases Bool.or_eq_true_iff.1 (ChannelAnswer.over.inj h) with htrig | hnone
      · rw [lasting ch more htrig]; rfl
      · have hno := hasHandle_run (hc.listener hslot) (by simpa using hnone) more
        rw [run_append, hno, Bool.not_false, Bool.or_true]
    · rw [listenerViews, List.getElem?_map, hgone]; exact .inr rfl
  · rw [log_eq wellFormed_initial]
    simp [untriggered]
  · rw [getElem?_handleViews h, getElem?_handleViews (handle?_step_of_ne hne h),
      latch_step_of_ne hc hne]
  · rw [getElem?_listenerViews h, getElem?_listenerViews (listener?_step_of_ne hne h),
      latch_step_of_ne hc hne]
  · rw [step_poll h, step_poll (listener?_step_of_ne hne h), latch_step_of_ne hc hne,
      hasHandle_step_of_ne hne]

end Channels

end LoadSwarm
