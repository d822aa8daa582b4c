/-
  Lines of progress lead up to the final figures.

  * `lines s`: the lines of progress of a run in order, each with its time.
  * `StatsFit w s`: no sum of the statistics has left its range.
  * `Charted w s`: every line states the figures of the requests that were recorded first.
  * `Change.recordings_prefix`, `leads_charted`: so it is in every run, as what was recorded is only
    added to.
  * `leads_goesOn`: there are lines to come until the stop.
  * `leads_summary`: the line that sums a run up counts all that was recorded.
  * `ProgressLines w s₀ interval`: every line is logged when it is due, up to the stop, and the
    figures grow up to those of the line that sums the run up.
-/
import LoadSwarm.Proofs.Swarm.Lines
import LoadSwarm.Proofs.Swarm.Summary

namespace LoadSwarm

/-- The figures of an event that is a line of progress. -/
def SwarmEvent.line? : SwarmEvent → Option EntryReport
  | progress total => some total
  | _ => none

/-! ## Figures of lists of requests -/

/-- The total of a report counts the requests and the failures of its list. -/
theorem RequestStats.Describes.total_figures {s : RequestStats} {xs : List Recording}
    (h : s.Describes xs) {startedAt : Timestamp} {elapsed : Duration} {r : StatsReport}
    (hr : s.snapshot startedAt elapsed = .ok r) :
    r.total.requests = xs.length ∧ r.total.failures = xs.countP (·.failed) := by
  obtain ⟨e, he, htotal⟩ := (h.snapshot hr).total
  rw [htotal]
  exact ⟨he.requests, he.failures⟩

theorem RequestStats.Describes.exists_snapshot {s : RequestStats} {xs : List Recording}
    (h : s.Describes xs) (fits : InRange xs) (startedAt : Timestamp) (elapsed : Duration) :
    ∃ r, s.snapshot startedAt elapsed = .ok r := by
  obtain ⟨t, ht⟩ := h.exists_total fits
  exact ⟨_, RequestStats.snapshot_eq_ok_iff.2 ⟨t, ht, rfl⟩⟩

namespace SwarmRun

variable {β : Type} {w : Surroundings β} {s s' : SwarmRun β} {settings : SwarmSettings}
  {latch : Latch} {start : Nat} {interval : Duration}

/-- The lines of progress of a run in order, each with its time. -/
def lines (s : SwarmRun β) : List (Nat × EntryReport) :=
  (s.events.filterMap fun e => e.2.line?.map (e.1, ·)).reverse

theorem map_fst_lines (s : SwarmRun β) : s.lines.map (·.1) = (lineTimes s.events).reverse := by
  unfold lines lineTimes
  rw [List.map_reverse, List.map_filterMap]
  congr 1
  refine List.filterMap_congr fun e _ => ?_
  unfold lineTime? SwarmEvent.line?
  cases e.2 <;> rfl

theorem lines_begin : (SwarmRun.begin w settings latch start).lines = [] := rfl

theorem lines_triggered (s : SwarmRun β) (reason : String) :
    (s.triggered reason).lines = s.lines := by
  unfold lines triggered
  rcases s.latch.announced? reason with _ | r <;> rfl

theorem lines_heardOf (s : SwarmRun β) (i : Nat) (rest : List Nat) :
    (s.heardOf i rest).lines = s.lines := by
  unfold lines heardOf
  rcases s.exitOf? i with _ | n | e | message <;> rfl

/-! ## Statistics whose sums stay in their ranges -/

/-- **No sum of the statistics has left its range**, neither as an answer was recorded nor over all
    answers. -/
structure StatsFit (w : Surroundings β) (s : SwarmRun β) : Prop where
  recorded : ∀ number, ¬s.Overflowed number
  total : InRange (s.recordings w)

/-- A sum leaves its range only with a user that breaks down over it. -/
theorem StatsFit.of_exits (exits : List (Option UserExit))
    (users : s.users.map UserTask.exit? = exits) (none : ∀ m, some (.crashed m) ∉ exits)
    (total : InRange (s.recordings w)) : s.StatsFit w := by
  refine ⟨?_, total⟩
  rintro number ⟨r, t, o, -, -, user, phase⟩
  have hmem := List.mem_map_of_mem (f := UserTask.exit?) (List.mem_of_getElem? user)
  rw [users, UserTask.exit?_eq_some_iff.2 phase] at hmem
  exact none _ hmem

theorem Books.recordings_describes (hb : Books w s) (fits : s.StatsFit w) :
    s.stats.Describes (s.recordings w) :=
  RequestStats.recordAll_describes (hb.describes fits.recorded)

/-! ## Figures of lines -/

/-- **Every line states the figures of the requests that were recorded first**, and every line
    states at least as many requests as the lines before. -/
structure Charted (w : Surroundings β) (s : SwarmRun β) : Prop where
  counted : ∀ line ∈ s.lines, line.2.requests ≤ (s.recordings w).length
  failed : ∀ line ∈ s.lines,
    line.2.failures = ((s.recordings w).take line.2.requests).countP (·.failed)
  growing : s.lines.Pairwise fun a b => a.2.requests ≤ b.2.requests

namespace Charted

/-- The figures of a line are those of the first requests, whatever is recorded after them. -/
theorem extend (h : Charted w s) (hpre : s.recordings w <+: s'.recordings w)
    (hlines : s'.lines = s.lines) : Charted w s' := by
  obtain ⟨xs, hxs⟩ := hpre
  refine ⟨fun line hl => ?_, fun line hl => ?_, by rw [hlines]; exact h.growing⟩
  · rw [hlines] at hl
    rw [← hxs, List.length_append]
    exact (h.counted line hl).trans (Nat.le_add_right _ _)
  · rw [hlines] at hl
    rw [← hxs, List.take_append_of_le_length (h.counted line hl)]
    exact h.failed line hl

/-- One more line states the figures of all requests. -/
theorem line (h : Charted w s) {total : EntryReport}
    (requests : total.requests = (s.recordings w).length)
    (failures : total.failures = (s.recordings w).countP (·.failed))
    (hlines : s'.lines = s.lines ++ [(s.now, total)])
    (same : s'.recordings w = s.recordings w) : Charted w s' := by
  refine ⟨fun line hl => ?_, fun line hl => ?_, ?_⟩
  · rw [hlines] at hl
    rw [same]
    rcases List.mem_append.1 hl with hl | hl
    · exact h.counted line hl
    · rw [List.mem_singleton.1 hl]; exact requests.le
  · rw [hlines] at hl
    rw [same]
    rcases List.mem_append.1 hl with hl | hl
    · exact h.failed line hl
    · rw [List.mem_singleton.1 hl, requests, List.take_length]; exact failures
  · rw [hlines]
    refine List.pairwise_append.2 ⟨h.growing, List.pairwise_singleton _ _, fun a ha b hb => ?_⟩
    rw [List.mem_singleton.1 hb]
    exact (h.counted a ha).trans requests.ge

theorem failures_le (h : Charted w s) : ∀ line ∈ s.lines, line.2.failures ≤ line.2.requests := by
  intro line hl
  rw [h.failed line hl]
  exact List.countP_le_length.trans (List.length_take_le _ _)

/-- Failures grow with the requests. -/
theorem failures_mono (h : Charted w s) {a b : Nat × EntryReport} (ha : a ∈ s.lines)
    (hb : b ∈ s.lines) (hle : a.2.requests ≤ b.2.requests) : a.2.failures ≤ b.2.failures := by
  rw [h.failed a ha, h.failed b hb]
  exact (List.take_sublist_take_left hle).countP_le

theorem failures_le_all (h : Charted w s) :
    ∀ line ∈ s.lines, line.2.failures ≤ (s.recordings w).countP (·.failed) := by
  intro line hl
  rw [h.failed line hl]
  exact (List.take_sublist _ _).countP_le

end Charted

/-! ## Statistics and lines of a run -/

variable [Behavior β]

/-- **A change adds to what was recorded**, or leaves it as it was. -/
theorem Change.recordings_prefix (hc : Change w s s') (hb : Books w s) :
    s.recordings w <+: s'.recordings w := by
  have same {xs ys : List Recording} (h : ys = xs) : xs <+: ys := h ▸ List.prefix_rfl
  cases hc with
  | request => exact same (hb.ledger.recordings_start _)
  | answerYield i t number path since due outcome stats user phase
  | answerWait i t number path since due outcome stats d user phase
  | answerCrash i t number path since due outcome stats e user phase =>
    exact ⟨_, (hb.ledger.recordings_complete user phase s.now).symm⟩
  | fail i t e => exact same (recordings_fail s.now e)
  | _ => exact List.prefix_rfl

/-- A sum that has left its range stays so. -/
theorem Change.overflowed (hc : Change w s s') (hb : Books w s) {number : Nat}
    (h : s.Overflowed number) : s'.Overflowed number := by
  have begins := @UserTask.exit?_eq_none_of_begins β
  have busy := @UserTask.exit?_eq_none_of_requesting β
  cases hc with
  | request i t path b user turn => exact (LoadSwarm.Overflowed.start h _).set user (begins turn) _
  | overflow i t number' path since due outcome stats o user phase =>
    exact LoadSwarm.Overflowed.set h user (busy phase) _
  | answerYield i t number' path since due outcome stats user phase
  | answerWait i t number' path since due outcome stats d user phase
  | answerCrash i t number' path since due outcome stats e user phase =>
    exact LoadSwarm.Overflowed.complete h hb.ledger user phase s.now _
  | stop i t user alive => exact LoadSwarm.Overflowed.set h user alive _
  | fail i t e b user turn | crash i t message b user turn =>
    exact LoadSwarm.Overflowed.set h user (begins turn) _
  | spawn i => exact LoadSwarm.Overflowed.spawn h _
  | _ => exact h

theorem Change.statsFit (hc : Change w s s') (hb : Books w s) (fits : s'.StatsFit w) :
    s.StatsFit w := by
  refine ⟨fun number h => fits.recorded number (hc.overflowed hb h), ?_⟩
  obtain ⟨xs, hxs⟩ := hc.recordings_prefix hb
  exact (hxs ▸ fits.total).of_append

/-- Sums that are in their ranges were so before. -/
theorem Leads.statsFit (hl : Leads w (.begin w settings latch start) s) (h : Leads w s s')
    (fits : s'.StatsFit w) : s.StatsFit w := by
  refine h.induction (P := fun s' => s'.StatsFit w → s.StatsFit w) (fun s₁ s₂ h₁ ih hc fits => ?_)
    (fun _ _ _ ih fits => ih ⟨fits.recorded, fits.total⟩) id fits
  exact ih (hc.statsFit (leads_books (hl.trans h₁)) fits)

/-- **A change adds a line with the present figures**, or none. -/
theorem Change.lines_cases (hc : Change w s s') :
    (∃ n r, s.progress = some n ∧ s.snapshot w = .ok r ∧ s'.lines = s.lines ++ [(s.now, r.total)] ∧
      s'.recordings w = s.recordings w ∧ s'.stage = s.stage) ∨ s'.lines = s.lines := by
  cases hc with
  | progress n interval r line every ready snapshot =>
    exact .inl ⟨n, r, line, snapshot, List.reverse_cons, rfl, rfl⟩
  | endJoining | timeout | trigger => exact .inr (lines_triggered s _)
  | hear i rest => exact .inr (lines_heardOf s i rest)
  | _ => exact .inr rfl

theorem Leads.lines_prefix (h : Leads w s s') : s.lines <+: s'.lines := by
  refine h.induction (P := fun s' => s.lines <+: s'.lines) (fun s₁ s₂ _ ih hc => ?_)
    (fun _ _ _ ih => ih) List.prefix_rfl
  rcases hc.lines_cases with ⟨_, _, _, _, hlines, _⟩ | hlines
  · rw [hlines]; exact ih.trans (List.prefix_append _ _)
  · rw [hlines]; exact ih

/-- **In every run, lines state the figures of the requests recorded first.** -/
theorem leads_charted (h : Leads w (.begin w settings latch start) s) (fits : s.StatsFit w) :
    Charted w s := by
  refine h.induction (P := fun s => s.StatsFit w → Charted w s) (fun s₁ s₂ hl ih hc fits => ?_)
    (fun _ _ _ ih fits => ?_) (fun _ => ?_) fits
  · have hb := leads_books hl
    have fits₁ := hc.statsFit hb fits
    rcases hc.lines_cases with ⟨n, r, -, hsnap, hlines, hsame, -⟩ | hlines
    · obtain ⟨requests, failures⟩ := (hb.recordings_describes fits₁).total_figures hsnap
      exact (ih fits₁).line requests failures hlines hsame
    · exact (ih fits₁).extend (hc.recordings_prefix hb) hlines
  · exact (ih ⟨fits.recorded, fits.total⟩).extend List.prefix_rfl rfl
  · constructor <;> simp [lines_begin]

/-! ## Lines up to the stop -/

/-- **There are lines to come until the stop**, as long as the sums are in their ranges. -/
theorem leads_goesOn (h : Leads w (.begin w settings latch start) s) (fits : s.StatsFit w)
    (every : settings.statsInterval = some interval) (last : s.progress = none) :
    s.isStopping = true := by
  refine h.induction
    (P := fun s => s.StatsFit w → s.progress = none → s.isStopping = true)
    (fun s₁ s₂ hl ih hc fits last => ?_)
    (fun _ _ _ ih fits last => ih ⟨fits.recorded, fits.total⟩ last) ?_ fits last
  · have hb := leads_books hl
    have fits₁ := hc.statsFit hb fits
    have hl₂ := hl.tail (.change _ hc)
    cases hc with
    | report | noReport => exact stopping_of_returned hl₂ rfl
    | progress => cases last
    | dropProgress n line ready =>
      refine ready.resolve_right fun ⟨o, ho⟩ => ?_
      obtain ⟨r, hr⟩ := (hb.recordings_describes fits₁).exists_snapshot fits₁.total w.epoch
        (Duration.ofMillis (s₁.now - s₁.start))
      unfold snapshot at ho
      rw [hr] at ho; cases ho
    | endJoining | timeout | trigger => exact isStopping_triggered s₁ _
    | _ => exact ih fits₁ last
  · intro _ last
    simp [SwarmRun.begin, every] at last

/-- No line is later than the present, nor than the return of the run. -/
theorem leads_lines_le (h : Leads w (.begin w settings latch start) s) :
    ∀ line ∈ s.lines, line.1 ≤ s.now ∧ ∀ t r, s.stage = .returned t r → line.1 ≤ t := by
  refine h.induction
    (P := fun s => ∀ line ∈ s.lines, line.1 ≤ s.now ∧ ∀ t r, s.stage = .returned t r → line.1 ≤ t)
    (fun s₁ s₂ hl ih hc line hline => ?_) (fun _ _ hle ih line hline => ?_)
    (by simp [lines_begin])
  · -- a line that was logged before
    have old (hline : line ∈ s₁.lines) :
        line.1 ≤ s₂.now ∧ ∀ t r, s₂.stage = .returned t r → line.1 ≤ t := by
      obtain ⟨hnow, hret⟩ := ih line hline
      refine ⟨hc.now_eq ▸ hnow, fun t r hst => ?_⟩
      rcases hc.return_cases hst with hold | returns
      · exact hret t r hold
      · exact returns.now ▸ hnow
    rcases hc.lines_cases with ⟨n, r, hn, -, hlines, -, hstage⟩ | hlines
    · rw [hlines] at hline
      rcases List.mem_append.1 hline with hline | hline
      · exact old hline
      · rw [List.mem_singleton.1 hline]
        refine ⟨hc.now_eq.ge, fun t r hst => ?_⟩
        rw [hstage] at hst
        rw [progress_of_returned hl (by rw [hst]; rfl)] at hn; cases hn
    · exact old (hlines ▸ hline)
  · exact ⟨(ih line hline).1.trans hle, (ih line hline).2⟩

/-- **No line is later than the stop.** -/
theorem StopsAt.lines_le {before after : List Action} {time : Nat}
    (h : StopsAt w (.begin w settings latch start) before time) :
    ∀ line ∈ (run w (.begin w settings latch start) (before ++ after)).lines, line.1 ≤ time := by
  intro line hline
  have ht := h.standsAt after
  obtain ⟨hnow, hret⟩ := leads_lines_le (run_leads _ _) line hline
  rcases hr : (run w (.begin w settings latch start) (before ++ after)).stage.isReturned with _ | _
  · exact hnow.trans (ht.1 hr).le
  · obtain ⟨t, r, hst⟩ := Stage.exists_of_isReturned hr
    exact (hret t r hst).trans (ht.2 t r hst).le

theorem run_progressDue (as : List Action) (n : Nat) :
    (run w (.begin w settings latch start) as).progressDue n interval =
      (SwarmRun.begin w settings latch start).progressDue n interval := by
  have hl := run_leads (w := w) (.begin w settings latch start) as
  unfold progressDue
  rw [hl.start_eq, hl.clock_eq]

/-- **Every line that is due before the stop is logged.** -/
theorem StopsAt.line_lt_length {before after : List Action} {time : Nat}
    (h : StopsAt w (.begin w settings latch start) before time)
    (every : settings.statsInterval = some interval)
    (fits : (run w (.begin w settings latch start) (before ++ after)).StatsFit w) {k : Nat}
    (due : (SwarmRun.begin w settings latch start).progressDue (k + 1) interval < time) :
    k < (run w (.begin w settings latch start) (before ++ after)).lines.length := by
  cases h with
  | early => exact absurd due (Nat.not_lt.2 (Nat.le_add_right _ _))
  | during as a going stopping =>
    rw [List.append_assoc, run_append] at fits ⊢
    have hl := run_leads (w := w) (.begin w settings latch start) as
    have hafter := run_leads (w := w) (run w (.begin w settings latch start) as) ([a] ++ after)
    refine lt_of_lt_of_le ?_ hafter.lines_prefix.length_le
    -- the next line is ahead, so that none is missing
    rcases hn : (run w (.begin w settings latch start) as).progress with _ | n
    · rw [leads_goesOn hl (hl.statsFit hafter fits) every hn] at going; cases going
    · obtain ⟨rfl, hnow⟩ := (run_punctual every latch start as).next n hn
      have hlen : (lineTimes (run w (.begin w settings latch start) as).events).length =
          (run w (.begin w settings latch start) as).lines.length := by
        simpa using (congrArg List.length (map_fst_lines (run w (.begin w settings latch start) as))).symm
      rw [run_progressDue, hlen] at hnow
      by_contra hk
      exact absurd (hnow.trans (progressDue_mono interval (by omega))) (Nat.not_le.2 due)

/-- Lines are logged when they are due. -/
theorem run_line_due (every : settings.statsInterval = some interval) (as : List Action) {k : Nat}
    {line : Nat × EntryReport}
    (hk : (run w (.begin w settings latch start) as).lines[k]? = some line) :
    line.1 = (SwarmRun.begin w settings latch start).progressDue (k + 1) interval := by
  have htimes := (map_fst_lines _).trans (run_punctual (w := w) every latch start as).logged
  have hkt := congrArg (·[k]?) htimes
  simp only [List.getElem?_map, hk, Option.map_some] at hkt
  obtain ⟨k', hk', heq⟩ := Option.map_eq_some_iff.1 hkt.symm
  obtain ⟨hlt, rfl⟩ := List.getElem?_eq_some_iff.1 hk'
  rw [List.getElem_range, run_progressDue] at heq
  exact heq.symm

/-! ## The lines of a run -/

/-- **The line that sums a run up counts all that was recorded.** -/
theorem leads_summary (h : Leads w (.begin w settings latch start) s) (fits : s.StatsFit w)
    {time : Nat} {result : Except RunFailure StatsReport} (hst : s.stage = .returned time result) :
    s.summaries = [(s.tally.iterations, (s.recordings w).length,
      (s.recordings w).countP (·.failed))] := by
  have hdesc := (leads_books h).recordings_describes fits
  rcases (leads_sumsUp h).returned time result hst with ⟨_, r, hsnap, -, hline⟩ | ⟨⟨message, hm⟩, -⟩
  · obtain ⟨requests, failures⟩ := hdesc.total_figures hsnap
    rw [hline, requests, failures]
  · -- the run does not break down over figures that are in their ranges
    rcases leads_result h time result hst with ⟨_, r, -, hr⟩ | ⟨o, ho, -⟩
    · rw [hm] at hr
      rcases s.conclude_cases r with ⟨_, -, -, hres⟩ | ⟨-, hres⟩ <;> (rw [hres] at hr; cases hr)
    · obtain ⟨t, ht⟩ := hdesc.exists_total fits.total
      rw [ht] at ho; cases ho

/-- **Lines of progress lead up to the final figures.** -/
structure ProgressLines (w : Surroundings β) (s₀ : SwarmRun β) (interval : Duration) : Prop where
  /-- lines are due at the ticks of the clock, and these come after whole numbers of intervals, in
      milliseconds rounded up, if the clock keeps them -/
  due : ∀ n, s₀.clock.KeepsTick interval n →
    s₀.progressDue n interval = s₀.start + n * interval.nanos ⌈/⌉ nanosPerMilli
  /-- a line is logged when it is due -/
  punctual : ∀ actions k line, (run w s₀ actions).lines[k]? = some line →
    line.1 = s₀.progressDue (k + 1) interval
  /-- all lines are logged that are due before the stop -/
  complete : ∀ before time after k, StopsAt w s₀ before time →
    (run w s₀ (before ++ after)).StatsFit w → s₀.progressDue (k + 1) interval < time →
    k < (run w s₀ (before ++ after)).lines.length
  /-- and none is that is due after it -/
  notAfter : ∀ before time after k, StopsAt w s₀ before time →
    k < (run w s₀ (before ++ after)).lines.length → s₀.progressDue (k + 1) interval ≤ time
  growing : ∀ actions, (run w s₀ actions).StatsFit w → (run w s₀ actions).lines.Pairwise
    fun a b => a.2.requests ≤ b.2.requests ∧ a.2.failures ≤ b.2.failures
  failures_le : ∀ actions, (run w s₀ actions).StatsFit w →
    ∀ line ∈ (run w s₀ actions).lines, line.2.failures ≤ line.2.requests
  /-- no line is beyond the one that sums the run up -/
  bounded : ∀ actions, (run w s₀ actions).StatsFit w → ∀ line ∈ (run w s₀ actions).lines,
    ∀ sum ∈ (run w s₀ actions).summaries, line.2.requests ≤ sum.2.1 ∧ line.2.failures ≤ sum.2.2
  /-- which there is once the run has returned -/
  summed : ∀ actions time result, (run w s₀ actions).StatsFit w →
    (run w s₀ actions).stage = .returned time result → ∃ sum, (run w s₀ actions).summaries = [sum]
  /-- and which states the total of the report -/
  report : ∀ actions time report, (run w s₀ actions).stage = .returned time (.ok report) →
    (run w s₀ actions).summaries =
      [((run w s₀ actions).tally.iterations, report.total.requests, report.total.failures)]

/-- **Lines of progress lead up to the final figures** in every run. -/
theorem begin_progressLines (w : Surroundings β) (settings : SwarmSettings) (latch : Latch)
    (start : Nat) (interval : Duration) (every : settings.statsInterval = some interval) :
    ProgressLines w (.begin w settings latch start) interval where
  due n keeps := by
    have htick : w.clock.tick interval n = n * interval.nanos ⌈/⌉ nanosPerMilli := by
      rw [show w.clock.tick interval n = _ from keeps, Nat.ceilDiv_eq_add_pred_div,
        Nat.add_sub_assoc (by decide)]
    exact congrArg (start + ·) htick
  punctual actions k line hk := run_line_due every actions hk
  complete before time after k h fits due := h.line_lt_length every fits due
  notAfter before time after k h hk := by
    have hline := run_line_due every (before ++ after) (List.getElem?_eq_getElem hk)
    exact hline.ge.trans (h.lines_le _ (List.getElem_mem hk))
  growing actions fits := by
    have hc := leads_charted (run_leads _ actions) fits
    exact hc.growing.imp_of_mem fun ha hb hle => ⟨hle, hc.failures_mono ha hb hle⟩
  failures_le actions fits := (leads_charted (run_leads _ actions) fits).failures_le
  bounded actions fits line hline sum hsum := by
    have hl := run_leads (w := w) (.begin w settings latch start) actions
    have hc := leads_charted hl fits
    rcases hr : (run w (.begin w settings latch start) actions).stage.isReturned with _ | _
    · rw [(leads_sumsUp hl).before hr] at hsum; cases hsum
    · obtain ⟨t, result, hst⟩ := Stage.exists_of_isReturned hr
      rw [leads_summary hl fits hst] at hsum
      rw [List.mem_singleton.1 hsum]
      exact ⟨hc.counted line hline, hc.failures_le_all line hline⟩
  summed actions time result fits hst := ⟨_, leads_summary (run_leads _ actions) fits hst⟩
  report actions time report hst := by
    have hl := run_leads (w := w) (.begin w settings latch start) actions
    rcases (leads_sumsUp hl).returned time _ hst with ⟨_, r, _, hr, hline⟩ | ⟨⟨message, hm⟩, -⟩
    · rw [hline, eq_of_conclude hr.symm]
    · cases hm

/-- Every other answer tells of something that was not found. -/
def alternating : Surroundings (User Script) where
  make _ := ⟨⟨["a", "b"]⟩, ⟨[some 0, some 1, some 0], 0⟩⟩
  client number _ := { outcome := .ok ⟨if number % 2 = 0 then 200 else 404, 5⟩, latency := 8 }

/-- Two lines of progress, and the stop. -/
def stoppedAfterTwoLines : List Action :=
  [.poll .stage fun _ => true, .poll (.user 0) fun _ => true, .advance 8,
    .poll (.user 0) fun _ => true, .poll (.user 0) fun _ => true, .advance 10,
    .poll .progress fun _ => true, .advance 16, .poll (.user 0) fun _ => true,
    .poll (.user 0) fun _ => true, .advance 20, .poll .progress fun _ => true, .advance 22]

theorem begin_progressLines_alternating :
    let interval := Duration.ofMillis 10
    let s₀ : SwarmRun (User Script) := .begin alternating { statsInterval := some interval } {} 0
    let before := stoppedAfterTwoLines ++ [.trigger "interrupted"]
    let s := run alternating s₀
      (before ++ [.poll (.user 0) fun _ => true, .poll .stage fun _ => true])
    StopsAt alternating s₀ before 22 ∧ s.StatsFit alternating ∧
      (∀ n, alternating.clock.KeepsTick interval n) ∧
      s.lines.map (fun line => (line.1, line.2.requests, line.2.failures)) =
        [(10, 1, 0), (20, 2, 1)] ∧
      s.summaries = [(2, 2, 1)] ∧ ProgressLines alternating s₀ interval := by
  intro interval s₀ before s
  have hstop : StopsAt alternating s₀ before _ :=
    .during stoppedAfterTwoLines (.trigger "interrupted") (by decide +kernel) (by decide +kernel)
  have hnow : (run alternating s₀ stoppedAfterTwoLines).now = 22 := by decide +kernel
  rw [hnow] at hstop
  have fits : s.StatsFit alternating :=
    .of_exits [some (.stopped 2)] (by decide +kernel) (by simp)
      ⟨by decide +kernel, by decide +kernel, by decide +kernel⟩
  have keeps (n : Nat) : alternating.clock.KeepsTick interval n := Clock.exact_keepsTick interval n
  exact ⟨hstop, fits, keeps, by decide +kernel, by decide +kernel,
    begin_progressLines alternating _ {} 0 interval rfl⟩

end SwarmRun

end LoadSwarm
