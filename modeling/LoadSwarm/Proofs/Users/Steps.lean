/-
  The steps of one user with a recorded client.

  * `Session.steps`: a sequence of steps, each of which only asks for the next path or carries out
    an iteration.
  * `Session.overflows`: the sums that leave their range on the way.
  * `Session.step_of_none`, `Session.step_of_some`: what one step does.
  * `Session.Ran`: a run of steps in terms of the moves of the user; one more step keeps it
    (`Ran.request`, `Ran.pass`), so that it holds of every run that fits (`Session.ran`).
  * `Watched`: a source that notes what it is asked for.
  * `Session.FollowsSource`: what a user does follows the draws of its source, and nothing of it
    the answers of the client.
-/
import LoadSwarm.Proofs.Stats.Requests
import LoadSwarm.Proofs.Users.Moves
import LoadSwarm.Users.Session

namespace LoadSwarm

/-! ## Steps -/

/-- What is asked of a user. -/
inductive SessionStep where
  /-- its next path, for which nothing is requested -/
  | peek
  | iterate
  deriving DecidableEq, Repr

/-- What comes of a step. -/
inductive StepResult where
  | peeked (m : Move)
  | iterated (e : IterationEnd)
  deriving DecidableEq, Repr

/-- The path that a move requests. -/
def Move.path? : Move → Option String
  | request path => some path
  | fail _ | crash _ => none

/-- How an iteration with a move ends, when the answer can be recorded. -/
def Move.ending : Move → IterationEnd
  | request _ => .done
  | fail e => .failed e
  | crash message => .crashed message

/-- What comes of a step with a move, when the answer can be recorded. -/
def SessionStep.result : SessionStep → Move → StepResult
  | peek, m => .peeked m
  | iterate, m => .iterated m.ending

/-- The path that a step requests with a move. -/
def SessionStep.request? : SessionStep → Move → Option String
  | peek, _ => none
  | iterate, m => m.path?

/-- An iteration ends well if it requests something. -/
theorem SessionStep.result_eq_done_iff {x : SessionStep} {m : Move} :
    x.result m = .iterated .done ↔ ∃ path, x.request? m = some path := by
  cases x with
  | peek => simp [result, request?]
  | iterate => cases m <;> simp [result, request?, Move.ending, Move.path?]

theorem SessionStep.path?_of_request? {x : SessionStep} {m : Move} {path : String}
    (h : x.request? m = some path) : m.path? = some path := by
  cases x with
  | peek => cases h
  | iterate => exact h

/-- The paths of the iterations that end well, of steps with the paths `path 0`, `path 1`, … -/
def donePaths (path : Nat → Option String) (results : List StepResult) : List String :=
  results.zipIdx.filterMap fun (r, j) => if r = .iterated .done then path j else none

theorem donePaths_concat (path : Nat → Option String) (results : List StepResult) (r : StepResult) :
    donePaths path (results ++ [r]) =
      donePaths path results ++ (if r = .iterated .done then path results.length else none).toList := by
  unfold donePaths
  rw [List.zipIdx_append, List.filterMap_append, Nat.zero_add]
  rcases h : (if r = .iterated .done then path results.length else none) with _ | p <;> simp [h]

theorem donePaths_congr {path path' : Nat → Option String} (h : ∀ j, path j = path' j)
    (results : List StepResult) : donePaths path results = donePaths path' results := by
  rw [funext h]

namespace Session
variable {β : Type} [Behavior β] (client : Nat → String → ClientAnswer)

/-- One step of a user. -/
def step (s : Session β) : SessionStep → Session β × StepResult
  | .peek =>
    let (s, m) := s.peek
    (s, .peeked m)
  | .iterate =>
    let (s, e) := s.iterate client
    (s, .iterated e)

/-- A sequence of steps, with the results of all of them. -/
def steps (s : Session β) : List SessionStep → Session β × List StepResult
  | [] => (s, [])
  | x :: xs =>
    let first := s.step client x
    let rest := first.1.steps xs
    (rest.1, first.2 :: rest.2)

/-- The answer to a request as it is recorded, with `n` requests before it. -/
def recording (n : Nat) (path : String) : Recording :=
  ⟨path, (client n path).latency, (client n path).outcome⟩

/-- The sum of the statistics that leaves its range in a step. -/
def overflow? (s : Session β) (x : SessionStep) : Option StatsOverflow :=
  (x.request? (Behavior.next s.user).1).bind fun path =>
    (s.stats.recordOne (recording client s.paths.length path)).2

/-- The sums of the statistics that leave their range in a sequence of steps. -/
def overflows (s : Session β) : List SessionStep → List StatsOverflow
  | [] => []
  | x :: xs => (s.overflow? client x).toList ++ (s.step client x).1.overflows xs

/-- The last step is made after the others. -/
theorem steps_concat (s : Session β) (l : List SessionStep) (x : SessionStep) :
    s.steps client (l ++ [x]) =
      let before := s.steps client l
      let last := before.1.step client x
      (last.1, before.2 ++ [last.2]) := by
  induction l generalizing s with
  | nil => rfl
  | cons y ys ih => rw [List.cons_append, steps, ih]; rfl

theorem overflows_concat (s : Session β) (l : List SessionStep) (x : SessionStep) :
    s.overflows client (l ++ [x]) =
      s.overflows client l ++ ((s.steps client l).1.overflow? client x).toList := by
  induction l generalizing s with
  | nil => simp [overflows, steps]
  | cons y ys ih => rw [List.cons_append, overflows, ih, ← List.append_assoc]; rfl

/-- **A step without a request** makes the next move of the user, and nothing else. -/
theorem step_of_none {s : Session β} {x : SessionStep}
    (h : x.request? (Behavior.next s.user).1 = none) :
    s.step client x =
      ({ s with user := (Behavior.next s.user).2 }, x.result (Behavior.next s.user).1) := by
  rcases hm : Behavior.next s.user with ⟨m, user⟩
  rw [hm] at h
  cases x with
  | peek => unfold step peek; rw [hm]; rfl
  | iterate =>
    unfold step iterate peek
    rw [hm]
    cases m with
    | request path => cases h
    | fail e => rfl
    | crash message => rfl

/-- **A step with a request** asks the client and records its answer. -/
theorem step_of_some {s : Session β} {x : SessionStep} {path : String}
    (h : x.request? (Behavior.next s.user).1 = some path) :
    (s.step client x).1 = ⟨(Behavior.next s.user).2, s.paths ++ [path],
        (s.stats.recordOne (recording client s.paths.length path)).1⟩ ∧
      (s.overflow? client x = none → (s.step client x).2 = .iterated .done) := by
  rcases hm : Behavior.next s.user with ⟨m, user⟩
  unfold overflow?
  rw [hm] at h ⊢
  rw [h, Option.bind_some]
  cases x with
  | peek => cases h
  | iterate =>
    cases m with
    | fail e => cases h
    | crash message => cases h
    | request path =>
      cases h
      unfold step iterate peek get
      rw [hm]
      dsimp only [RequestStats.recordOne, recording]
      rcases (s.stats.record path (client s.paths.length path).latency
        (client s.paths.length path).outcome).2 with _ | o
      · exact ⟨rfl, fun _ => rfl⟩
      · exact ⟨rfl, nofun⟩

/-- A step makes the next move of the user, whatever comes of it. -/
theorem step_user (s : Session β) (x : SessionStep) :
    (s.step client x).1.user = (Behavior.next s.user).2 := by
  rcases h : x.request? (Behavior.next s.user).1 with _ | path
  · rw [step_of_none client h]
  · rw [(step_of_some client h).1]

/-- So a sequence of steps makes as many moves. -/
theorem steps_user (s : Session β) (l : List SessionStep) :
    (s.steps client l).1.user = Behavior.after s.user l.length := by
  induction l using List.reverseRecOn with
  | nil => rfl
  | append_singleton l x ih =>
    rw [steps_concat, List.length_append, List.length_singleton, Behavior.after, ← ih]
    exact step_user client _ x

/-! ## A run of steps -/

/-- The answers to requests as they are recorded, with `n` requests before them. -/
def recordings (n : Nat) (paths : List String) : List Recording :=
  paths.mapIdx fun k path => recording client (n + k) path

theorem recordings_concat (n : Nat) (paths : List String) (path : String) :
    recordings client n (paths ++ [path]) =
      recordings client n paths ++ [recording client (n + paths.length) path] := List.mapIdx_concat

/-- **A run of steps in terms of the moves of the user**: one move for each step; the client is
    asked for the paths of the iterations that end well, and every answer is recorded. -/
structure Ran (s : Session β) (l : List SessionStep) (s' : Session β) (rs : List StepResult) :
    Prop where
  user : s'.user = Behavior.after s.user l.length
  results : rs = l.mapIdx fun j x => x.result (Behavior.move s.user j)
  paths : s'.paths = s.paths ++ donePaths (fun j => (Behavior.move s.user j).path?) rs
  stats : recordAll RequestStats.recordOne s.stats
      (recordings client s.paths.length
        (donePaths (fun j => (Behavior.move s.user j).path?) rs)) = (s'.stats, none)

namespace Ran
variable {client} {s s' : Session β} {l : List SessionStep} {rs : List StepResult}

theorem nil (s : Session β) : Ran client s [] s [] :=
  ⟨rfl, rfl, (List.append_nil _).symm, rfl⟩

theorem length (h : Ran client s l s' rs) : rs.length = l.length := by
  rw [h.results, List.length_mapIdx]

/-- The next move comes after as many moves as there were steps. -/
theorem next (h : Ran client s l s' rs) :
    Behavior.next s'.user = (Behavior.move s.user l.length, Behavior.after s.user (l.length + 1)) := by
  rw [h.user]; rfl

/-- One more step with a request whose answer is recorded. -/
theorem request (h : Ran client s l s' rs) {x : SessionStep} {path : String} {stats : RequestStats}
    (request : x.request? (Behavior.next s'.user).1 = some path)
    (record : s'.stats.recordOne (recording client s'.paths.length path) = (stats, none)) :
    Ran client s (l ++ [x]) ⟨(Behavior.next s'.user).2, s'.paths ++ [path], stats⟩
      (rs ++ [.iterated .done]) := by
  have hmove : (Behavior.move s.user l.length).path? = some path := by
    rw [h.next] at request
    exact SessionStep.path?_of_request? request
  have hpaths : donePaths (fun j => (Behavior.move s.user j).path?) (rs ++ [.iterated .done]) =
      donePaths (fun j => (Behavior.move s.user j).path?) rs ++ [path] := by
    rw [donePaths_concat, if_pos rfl, h.length, hmove]; rfl
  refine ⟨?_, ?_, ?_, ?_⟩
  · rw [h.next, List.length_append, List.length_singleton]
  · rw [List.mapIdx_concat, ← h.results, ← SessionStep.result_eq_done_iff.2 ⟨path, request⟩, h.next]
  · rw [hpaths, h.paths, List.append_assoc]
  · rw [hpaths, recordings_concat, recordAll_concat_eq]
    rw [h.paths, List.length_append] at record
    exact ⟨s'.stats, h.stats, record⟩

/-- One more step of another kind. -/
theorem pass (h : Ran client s l s' rs) {x : SessionStep}
    (request : x.request? (Behavior.next s'.user).1 = none) :
    Ran client s (l ++ [x]) { s' with user := (Behavior.next s'.user).2 }
      (rs ++ [x.result (Behavior.next s'.user).1]) := by
  have hresult : x.result (Behavior.next s'.user).1 ≠ .iterated .done := by
    rw [Ne, SessionStep.result_eq_done_iff, request]
    rintro ⟨path, ⟨⟩⟩
  have hpaths : donePaths (fun j => (Behavior.move s.user j).path?)
      (rs ++ [x.result (Behavior.next s'.user).1]) =
        donePaths (fun j => (Behavior.move s.user j).path?) rs := by
    rw [donePaths_concat, if_neg hresult]; exact List.append_nil _
  refine ⟨?_, ?_, ?_, ?_⟩
  · rw [h.next, List.length_append, List.length_singleton]
  · rw [List.mapIdx_concat, ← h.results, h.next]
  · rw [hpaths, h.paths]
  · rw [hpaths, h.stats]

end Ran

/-- **A run whose steps all fit in the statistics follows the moves of the user.** -/
theorem ran (s : Session β) (l : List SessionStep) (fits : s.overflows client l = []) :
    Ran client s l (s.steps client l).1 (s.steps client l).2 := by
  induction l using List.reverseRecOn with
  | nil => exact .nil s
  | append_singleton l x ih =>
    rw [overflows_concat, List.append_eq_nil_iff, Option.toList_eq_nil_iff] at fits
    obtain ⟨hfits, hx⟩ := fits
    have h := ih hfits
    rw [steps_concat]
    dsimp only
    rcases hrequest : x.request? (Behavior.next (s.steps client l).1.user).1 with _ | path
    · rw [step_of_none client hrequest]
      exact h.pass hrequest
    · obtain ⟨hstep, hdone⟩ := step_of_some client hrequest
      rw [hstep, hdone hx]
      refine h.request hrequest (Prod.ext rfl ?_)
      unfold overflow? at hx
      rwa [hrequest, Option.bind_some] at hx

end Session

/-! ## Users and their sources -/

/-- The path at a draw: that of the identifier at its index. -/
def Identifiers.pathAt (ids : Identifiers) : Draw → Option String
  | .index x => ids.toList[x]?.map path
  | .failed _ => none

theorem Identifiers.path?_choiceAt (ids : Identifiers) (d : Draw) :
    (ids.choiceAt d).move.path? = ids.pathAt d := by
  rcases d with x | message
  · dsimp only [choiceAt, at_, pathAt]
    rcases ids.toList[x]? with _ | id <;> rfl
  · rfl

/-- A source that notes how many things it is asked to choose from, each time. -/
structure Watched (σ : Type) where
  source : σ
  asked : List Nat := []

section
variable {σ : Type} [IndexSource σ]

instance : IndexSource (Watched σ) where
  draw len w :=
    let (d, s) := IndexSource.draw len w.source
    (d, ⟨s, w.asked ++ [len]⟩)

/-- A watched source goes on as the source itself. -/
theorem Watched.after_eq (len : Nat) (w : Watched σ) (k : Nat) :
    IndexSource.after len w k =
      ⟨IndexSource.after len w.source k, w.asked ++ List.replicate k len⟩ := by
  induction k with
  | zero => simp [IndexSource.after]
  | succ k ih => rw [IndexSource.after, ih, List.replicate_succ', ← List.append_assoc]; rfl

/-- The path that a move of a user requests is the one at its draw. -/
theorem User.path?_move (u : User σ) (k : Nat) :
    (Behavior.move u k).path? =
      u.identifiers.pathAt (IndexSource.drawAt u.identifiers.size u.source k) := by
  rcases hempty : u.identifiers.isEmpty with _ | _
  · rw [User.move_eq hempty, Identifiers.path?_choiceAt]
  · have hnil : u.identifiers.toList = [] := List.isEmpty_iff.1 hempty
    rw [User.move_of_isEmpty hempty]
    rcases IndexSource.drawAt u.identifiers.size u.source k with x | message
    · rw [Identifiers.pathAt, hnil]; rfl
    · rfl

namespace Session

/-- A user at its start, with the statistics so far. -/
def begin (ids : Identifiers) (source : σ) (stats : RequestStats) : Session (User σ) where
  user := ⟨ids, source⟩
  stats := stats

/-- **A user follows its index source and nothing else**, where the requests so far are `xs`. -/
structure FollowsSource (ids : Identifiers) (source : σ) (stats : RequestStats)
    (xs : List Recording) (client : Nat → String → ClientAnswer) (l : List SessionStep) :
    Prop where
  /-- Without identifiers every step fails, -/
  nothing : ids.isEmpty = true →
    (steps client (begin ids source stats) l).2 = l.map (·.result (.fail .nothingToChoose))
  /-- and the source is as it was. -/
  untouched : ids.isEmpty = true →
    (steps client (begin ids source stats) l).1.user.source = source
  /-- With identifiers every step takes one draw from the source, -/
  drawn : ids.isEmpty = false →
    (steps client (begin ids source stats) l).1.user.source =
      IndexSource.after ids.size source l.length
  /-- and a source that notes it was asked for one of so many in each step, else never. -/
  asked : (steps client (begin ids (Watched.mk source []) stats) l).1.user.source.asked =
    if ids.isEmpty then [] else List.replicate l.length ids.size
  /-- The index of an identifier yields its path, with the identifier as it is. -/
  chosen : ∀ (j : Nat) step x id, l[j]? = some step →
    IndexSource.drawAt ids.size source j = .index x → ids.toList[x]? = some id →
      (steps client (begin ids source stats) l).2[j]? =
        some (step.result (.request ("/clusters/" ++ id)))
  /-- An index beyond them fails. -/
  outOfRange : ids.isEmpty = false → ∀ (j : Nat) step x, l[j]? = some step →
    IndexSource.drawAt ids.size source j = .index x → ids.size ≤ x →
      (steps client (begin ids source stats) l).2[j]? =
        some (step.result (.fail (.indexOutOfRange x ids.size)))
  /-- The client is asked for the paths of the iterations that end well, in their order, -/
  requested : (steps client (begin ids source stats) l).1.paths =
    donePaths (fun j => ids.pathAt (IndexSource.drawAt ids.size source j))
      (steps client (begin ids source stats) l).2
  /-- and each of them is recorded once, with its answer. -/
  recorded : (steps client (begin ids source stats) l).1.stats.Describes
    (xs ++ recordings client 0 (steps client (begin ids source stats) l).1.paths)
  /-- With other answers the results are the same. -/
  unaffected : ∀ other, overflows other (begin ids source stats) l = [] →
    (steps other (begin ids source stats) l).2 = (steps client (begin ids source stats) l).2

/-- **The steps of a user follow its index source.** -/
theorem steps_follow (ids : Identifiers) (source : σ) (stats : RequestStats) (xs : List Recording)
    (described : stats.Describes xs) (client : Nat → String → ClientAnswer)
    (l : List SessionStep) (fits : overflows client (begin ids source stats) l = []) :
    FollowsSource ids source stats xs client l := by
  have h := ran client (begin ids source stats) l fits
  have requested : (steps client (begin ids source stats) l).1.paths =
      donePaths (fun j => ids.pathAt (IndexSource.drawAt ids.size source j))
        (steps client (begin ids source stats) l).2 :=
    (h.paths.trans (List.nil_append _)).trans (donePaths_congr (User.path?_move _) _)
  have result {j : Nat} {step : SessionStep} (hstep : l[j]? = some step) :
      (steps client (begin ids source stats) l).2[j]? =
        some (step.result (Behavior.move (User.mk ids source) j)) := by
    rw [h.results, List.getElem?_mapIdx, hstep]; rfl
  have choice (hne : ids.isEmpty = false) {j : Nat} {step : SessionStep} {x : Nat}
      (hstep : l[j]? = some step) (hdraw : IndexSource.drawAt ids.size source j = .index x) :
      (steps client (begin ids source stats) l).2[j]? = some (step.result (ids.at_ x).move) := by
    rw [result hstep, User.move_eq (u := User.mk ids source) hne, hdraw]; rfl
  refine { nothing := fun hempty => ?_, untouched := fun hempty => ?_, drawn := fun hne => ?_,
           asked := ?_, chosen := fun j step x id hstep hdraw hid => ?_,
           outOfRange := fun hne j step x hstep hdraw hx => ?_, requested := requested,
           recorded := ?_, unaffected := fun other fits' => ?_ }
  · have hfail (j : Nat) : Behavior.move (begin ids source stats).user j = .fail .nothingToChoose :=
      User.move_of_isEmpty hempty j
    rw [h.results]
    refine List.ext_getElem? fun j => ?_
    rw [List.getElem?_mapIdx, List.getElem?_map, hfail]
  · rw [steps_user]
    exact congrArg User.source (User.after_of_isEmpty (u := User.mk ids source) hempty _)
  · rw [steps_user]
    exact congrArg User.source (User.after_eq (u := User.mk ids source) hne _)
  · rw [steps_user]
    rcases hempty : ids.isEmpty with _ | _
    · refine (congrArg (·.source.asked)
        (User.after_eq (u := User.mk ids (Watched.mk source [])) hempty _)).trans ?_
      rw [Watched.after_eq]; rfl
    · exact congrArg (·.source.asked)
        (User.after_of_isEmpty (u := User.mk ids (Watched.mk source [])) hempty _)
  · have hne : ids.isEmpty = false :=
      List.isEmpty_eq_false_iff_exists_mem.2 ⟨id, List.mem_of_getElem? hid⟩
    rw [choice hne hstep hdraw, Identifiers.at_, hid]; rfl
  · rw [choice hne hstep hdraw, Identifiers.at_, List.getElem?_eq_none hx]; rfl
  · refine described.recordAll ?_
    rw [h.paths]
    exact h.stats
  · rw [h.results, (ran other (begin ids source stats) l fits').results]

/-- One identifier twice, an index beyond them, a path without a request, and a client that fails
    every other time. -/
theorem steps_follow_mixed :
    let ids : Identifiers := ⟨["a", "b", "a"]⟩
    let source : Script := ⟨[some 2, some 7, some 1], 0⟩
    let client := fun n _ =>
      if n % 2 = 0 then ClientAnswer.mk (.ok ⟨200, 5⟩) Duration.zero
      else ClientAnswer.mk (.error (.network .connect)) Duration.zero
    let l : List SessionStep := [.iterate, .iterate, .peek, .iterate]
    (steps client (begin ids source {}) l).2 =
        [.iterated .done, .iterated (.failed (.indexOutOfRange 7 3)),
          .peeked (.request "/clusters/b"), .iterated .done] ∧
      (steps client (begin ids source {}) l).1.paths = ["/clusters/a", "/clusters/a"] ∧
      FollowsSource ids source {} [] client l := by
  intro ids source client l
  exact ⟨by decide +kernel, by decide +kernel,
    steps_follow ids source {} [] .nil client l (by decide +kernel)⟩

end Session

end

end LoadSwarm
