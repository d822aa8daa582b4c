/-
  Which configurations are accepted, and which part of the others is refused.

  * `Check.Decides check parts`: a check passes if all parts are good, and else names the first one
    that is not.  It is built up check by check (`Decides.require`, `Decides.both`, `Decides.append`).
  * `Target.Good`, `LoadShape.Good`, `Pacing.Good`, `ClientOptions.Good`, `ConnectionPool.Good`,
    `LogOptions.Good`: what the fields of each part must be, the parts inside of it apart.
  * `Configuration.parts`: all parts in the order in which they are checked.
  * `Configuration.Judged`: what the validation says of a configuration; `validate_judged` is that it
    holds for every one.
-/
import LoadSwarm.Proofs.Config.Words
import LoadSwarm.Proofs.Time.Seconds

namespace LoadSwarm

/-! ## Checks in turn -/

/-- A part that is checked, and what is asked of it. -/
structure CheckedPart where
  domain : String
  good : Prop

namespace Check

/-- **What a check says of some parts**: it passes if all of them are good, and else it names the
    first one that is not. -/
structure Decides (check : Check) (parts : List CheckedPart) : Prop where
  passes : check = .ok () ↔ ∀ p ∈ parts, p.good
  names : ∀ e, check = .error e → ∃ before p after, parts = before ++ p :: after ∧
    (∀ q ∈ before, q.good) ∧ ¬ p.good ∧ e.domain = p.domain

variable {a : Check} {b : Unit → Check} {d : String} {P Q : Prop} {ps qs : List CheckedPart}

/-- The error of two checks in turn is that of the first one, or the second one's after the first
    one passed. -/
theorem bind_eq_error_iff {e : DomainError} :
    a >>= b = .error e ↔ a = .error e ∨ (a = .ok () ∧ b () = .error e) := by
  rcases a with e' | ⟨⟨⟩⟩
  · exact ⟨.inl, fun h => h.elim id fun h => nomatch h.1⟩
  · exact ⟨fun h => .inr ⟨rfl, h⟩, fun h => h.elim nofun And.right⟩

namespace Decides

theorem pass (d : String) : Decides (.ok ()) [⟨d, True⟩] :=
  ⟨by simp, nofun⟩

theorem require (d : String) (problem : FieldProblem) (ok : Bool) :
    (Check.require d problem ok).Decides [⟨d, ok = true⟩] := by
  refine ⟨by rw [require_eq_ok_iff, List.forall_mem_singleton], fun e he => ?_⟩
  unfold Check.require at he
  cases ok with
  | true => cases he
  | false =>
    cases he
    exact ⟨[], _, [], rfl, nofun, Bool.false_ne_true, rfl⟩

/-- The first part may be described in another way. -/
theorem congr (h : a.Decides (⟨d, P⟩ :: ps)) (hPQ : P ↔ Q) : a.Decides (⟨d, Q⟩ :: ps) := by
  rwa [← propext hPQ]

/-- **Two checks in turn are about the parts of both.** -/
theorem append (ha : a.Decides ps) (hb : (b ()).Decides qs) : Decides (a >>= b) (ps ++ qs) := by
  refine ⟨by rw [Check.bind_eq_ok_iff, ha.passes, hb.passes, List.forall_mem_append], fun e he => ?_⟩
  rcases bind_eq_error_iff.1 he with he | ⟨hok, he⟩
  · obtain ⟨before, p, after, rfl, hgood, hbad, hdomain⟩ := ha.names e he
    exact ⟨before, p, after ++ qs, by rw [List.append_assoc, List.cons_append], hgood, hbad, hdomain⟩
  · obtain ⟨before, p, after, rfl, hgood, hbad, hdomain⟩ := hb.names e he
    refine ⟨ps ++ before, p, after, by rw [List.append_assoc], ?_, hbad, hdomain⟩
    exact List.forall_mem_append.2 ⟨ha.passes.1 hok, hgood⟩

/-- **Two checks in turn may be about one part**, the second one about others after it. -/
theorem both (ha : a.Decides [⟨d, P⟩]) (hb : (b ()).Decides (⟨d, Q⟩ :: qs)) :
    Decides (a >>= b) (⟨d, P ∧ Q⟩ :: qs) := by
  have h := ha.append hb
  refine ⟨by rw [h.passes]; simp [and_assoc], fun e he => ?_⟩
  obtain ⟨before, p, after, heq, hgood, hbad, hdomain⟩ := h.names e he
  -- the first part that is not good is one of the first two, which are the same now, or a later one
  match before, heq, hgood with
  | [], heq, _ =>
    cases heq
    exact ⟨[], _, qs, rfl, nofun, fun h => hbad h.1, hdomain⟩
  | [_], heq, _ =>
    cases heq
    exact ⟨[], _, qs, rfl, nofun, fun h => hbad h.2, hdomain⟩
  | _ :: _ :: before, heq, hgood =>
    cases heq
    simp only [List.forall_mem_cons] at hgood
    exact ⟨_ :: before, p, after, rfl,
      List.forall_mem_cons.2 ⟨⟨hgood.1, hgood.2.1⟩, hgood.2.2⟩, hbad, hdomain⟩

/-- One check for each of a list. -/
theorem forM {α : Type} {f : α → Check} {R : α → Prop} (h : ∀ x, (f x).Decides [⟨d, R x⟩]) :
    ∀ xs : List α, Decides (xs.forM f) [⟨d, ∀ x ∈ xs, R x⟩]
  | [] => (pass d).congr (by simp)
  | x :: xs => ((h x).both (forM h xs)).congr (by simp)

end Decides

end Check

/-! ## Good parts -/

/-- A text with more than white space. -/
def Text.HasText (s : String) : Prop := ∃ c ∈ s.toList, isBlankChar c = false

/-- The host is an http URL, and identifiers that are listed are some, with text and no slash. -/
structure Target.Good (t : Target) : Prop where
  host : Text.HasText t.host
  url : ∃ u, Url.parse t.host = .ok u ∧ (u.scheme = "http".toList ∨ u.scheme = "https".toList)
  identifiers : ∀ ids, t.identifiers = some ids →
    ids ≠ [] ∧ ∀ id ∈ ids, Text.HasText id ∧ '/' ∉ id.toList

/-- There are users, they start at a finite positive rate, and a run time is some time. -/
structure LoadShape.Good (s : LoadShape) : Prop where
  users : 1 ≤ s.users
  rate : s.spawnRate.isFinite = true ∧ Binary64.zero < s.spawnRate
  runTime : s.runTime ≠ some Duration.zero

/-- The numbers are finite and zero or more, and the least is at most the most. -/
inductive Pacing.Good : Pacing → Prop
  | none : Good .none
  | constant {x : Binary64} (amount : x.IsAmount) : Good (.constant x)
  | between {x y : Binary64} (least : x.IsAmount) (most : y.IsAmount) (order : x ≤ y) :
      Good (.between x y)

/-- The time limit is a second at least, and the client has a name. -/
structure ClientOptions.Good (c : ClientOptions) : Prop where
  timeout : Duration.ofSeconds 1 ≤ c.timeout
  userAgent : Text.HasText c.userAgent

/-- Connections are kept, and the time limits are a second at least. -/
structure ConnectionPool.Good (p : ConnectionPool) : Prop where
  maxIdlePerHost : 1 ≤ p.maxIdlePerHost
  idleTimeout : Duration.ofSeconds 1 ≤ p.idleTimeout
  connectionTimeout : Duration.ofSeconds 1 ≤ p.connectionTimeout

/-- A filter that is set has text. -/
def LogOptions.Good (l : LogOptions) : Prop := ∀ f, l.filter = some f → Text.HasText f

/-! ## Checks of one field -/

namespace Text

theorem isBlank_eq_false_iff {s : String} : (!isBlank s) = true ↔ HasText s := by
  unfold isBlank HasText
  simp

end Text

namespace Check

theorem requiredText_decides (d field value : String) :
    (requiredText d field value).Decides [⟨d, Text.HasText value⟩] :=
  (Decides.require d _ _).congr Text.isBlank_eq_false_iff

theorem positiveNat_decides (d field : String) (value : Nat) :
    (positiveNat d field value).Decides [⟨d, 1 ≤ value⟩] :=
  (Decides.require d _ _).congr (by rw [decide_eq_true_eq, Nat.one_le_iff_ne_zero])

/-- Whole seconds are counted. -/
theorem positiveSeconds_decides (d field : String) (value : Duration) :
    (positiveNat d field value.seconds).Decides [⟨d, Duration.ofSeconds 1 ≤ value⟩] := by
  refine (positiveNat_decides d field _).congr ?_
  show 1 ≤ value.nanos / nanosPerSecond ↔ 1 * nanosPerSecond ≤ value.nanos
  rw [Nat.le_div_iff_mul_le Duration.nanosPerSecond_pos]

theorem seconds_decides (d field : String) (value : Binary64) :
    (seconds d field value).Decides [⟨d, value.IsAmount⟩] :=
  (Decides.require d _ _).congr (require_eq_ok_iff.symm.trans (@seconds_eq_ok_iff d field value))

/-- A text that is a URL has one of the two schemes. -/
theorem url_decides (d field value : String) :
    Decides (url d field value) [⟨d, Text.HasText value ∧
      ∃ u, Url.parse value = .ok u ∧ (u.scheme = "http".toList ∨ u.scheme = "https".toList)⟩] := by
  refine (requiredText_decides d field value).both ?_
  rcases hurl : Url.parse value with reason | u
  · refine ⟨⟨nofun, fun h => ?_⟩, fun e he => ?_⟩
    · obtain ⟨u, hu, -⟩ := List.forall_mem_singleton.1 h
      cases hu
    · cases he
      refine ⟨[], _, [], rfl, nofun, ?_, rfl⟩
      rintro ⟨u, hu, -⟩
      cases hu
  · exact (Decides.require d _ _).congr (by simp)

end Check

/-! ## Checks of the parts -/

theorem Target.validate_decides (t : Target) : t.validate.Decides [⟨"target", t.Good⟩] := by
  have hidentifier (id : String) :
      (checkIdentifier id).Decides [⟨"target", Text.HasText id ∧ '/' ∉ id.toList⟩] :=
    (Check.requiredText_decides _ _ _).both ((Check.Decides.require _ _ _).congr (by simp))
  have hgood : (Text.HasText t.host ∧ ∃ u, Url.parse t.host = .ok u ∧
      (u.scheme = "http".toList ∨ u.scheme = "https".toList)) ∧ (∀ ids, t.identifiers = some ids →
        ids ≠ [] ∧ ∀ id ∈ ids, Text.HasText id ∧ '/' ∉ id.toList) ↔ t.Good :=
    ⟨fun ⟨⟨h1, h2⟩, h3⟩ => ⟨h1, h2, h3⟩, fun ⟨h1, h2, h3⟩ => ⟨⟨h1, h2⟩, h3⟩⟩
  refine Check.Decides.congr ?_ hgood
  unfold validate
  refine (Check.url_decides "target" "host" t.host).both ?_
  rcases t.identifiers with _ | ids
  · exact (Check.Decides.pass _).congr (by simp)
  · exact ((Check.Decides.require _ _ _).both (Check.Decides.forM hidentifier ids)).congr (by simp)

theorem Pacing.validate_decides (p : Pacing) : p.validate.Decides [⟨"swarm.pacing", p.Good⟩] := by
  cases p with
  | none => exact (Check.Decides.pass _).congr ⟨fun _ => .none, fun _ => trivial⟩
  | constant x =>
    exact (Check.seconds_decides _ _ x).congr ⟨.constant, fun | .constant h => h⟩
  | between x y =>
    have horder : x.IsAmount → y.IsAmount → ((!y.lt x) = true ↔ x ≤ y) :=
      fun hx hy => Binary64.not_lt_iff hy.1 hx.1
    refine ((Check.seconds_decides _ _ x).both ((Check.seconds_decides _ _ y).both
      (Check.Decides.require _ _ _))).congr ?_
    constructor
    · rintro ⟨hx, hy, h⟩
      exact .between hx hy ((horder hx hy).1 h)
    · rintro ⟨⟩
      exact ⟨‹_›, ‹_›, (horder ‹_› ‹_›).2 ‹_›⟩

theorem LoadShape.validate_decides (s : LoadShape) :
    s.validate.Decides [⟨"swarm", s.Good⟩, ⟨"swarm.pacing", s.pacing.Good⟩] := by
  have hrate : (!s.spawnRate.le Binary64.zero) = true ∧ s.spawnRate.isFinite = true ↔
      s.spawnRate.isFinite = true ∧ Binary64.zero < s.spawnRate := by
    rw [and_comm]
    exact and_congr_right fun hf => by rw [← Binary64.lt_eq rfl hf]; rfl
  have hgood : 1 ≤ s.users.toNat ∧ (!s.spawnRate.le Binary64.zero) = true ∧
      s.spawnRate.isFinite = true ∧ s.runTime ≠ some Duration.zero ↔ s.Good := by
    rw [← and_assoc (a := (!s.spawnRate.le Binary64.zero) = true), hrate]
    exact ⟨fun ⟨h1, h2, h3⟩ => ⟨h1, h2, h3⟩, fun ⟨h1, h2, h3⟩ => ⟨h1, h2, h3⟩⟩
  refine Check.Decides.congr ?_ hgood
  unfold validate
  refine (Check.positiveNat_decides "swarm" "users" _).both ?_
  refine (Check.Decides.require "swarm" _ _).both ?_
  refine (Check.Decides.require "swarm" _ _).both ?_
  rcases s.runTime with _ | d
  · exact ((Check.Decides.pass _).append s.pacing.validate_decides).congr (by simp)
  · exact ((Check.Decides.require _ _ _).append s.pacing.validate_decides).congr (by simp)

theorem ConnectionPool.validate_decides (p : ConnectionPool) :
    p.validate.Decides [⟨"http.connection_pool", p.Good⟩] := by
  refine Check.Decides.congr ((Check.positiveNat_decides _ _ _).both
    ((Check.positiveSeconds_decides _ _ _).both (Check.positiveSeconds_decides _ _ _))) ?_
  exact ⟨fun ⟨h1, h2, h3⟩ => ⟨h1, h2, h3⟩, fun ⟨h1, h2, h3⟩ => ⟨h1, h2, h3⟩⟩

theorem ClientOptions.validate_decides (c : ClientOptions) :
    c.validate.Decides [⟨"http", c.Good⟩, ⟨"http.connection_pool", c.pool.Good⟩] := by
  refine Check.Decides.congr ((Check.positiveSeconds_decides _ _ _).both
    ((Check.requiredText_decides _ _ _).append c.pool.validate_decides)) ?_
  exact ⟨fun ⟨h1, h2⟩ => ⟨h1, h2⟩, fun ⟨h1, h2⟩ => ⟨h1, h2⟩⟩

theorem LogOptions.validate_decides (l : LogOptions) : l.validate.Decides [⟨"logging", l.Good⟩] := by
  unfold validate Good
  rcases l.filter with _ | f
  · exact (Check.Decides.pass _).congr (by simp)
  · exact (Check.Decides.require _ _ _).congr (by rw [Text.isBlank_eq_false_iff]; simp)

/-! ## Whole configurations -/

namespace Configuration

/-- All parts of a configuration, in the order in which they are checked. -/
def parts (c : Configuration) : List CheckedPart :=
  [⟨"target", c.target.Good⟩, ⟨"swarm", c.swarm.Good⟩, ⟨"swarm.pacing", c.swarm.pacing.Good⟩,
    ⟨"http", c.client.Good⟩, ⟨"http.connection_pool", c.client.pool.Good⟩, ⟨"logging", c.log.Good⟩]

theorem validate_decides (c : Configuration) : c.validate.Decides c.parts :=
  c.target.validate_decides.append
    (c.swarm.validate_decides.append (c.client.validate_decides.append c.log.validate_decides))

/-- **What the validation says of a configuration.** -/
structure Judged (c : Configuration) : Prop where
  /-- it accepts those whose parts are all good -/
  accepted : c.validate = .ok () ↔ c.target.Good ∧ c.swarm.Good ∧ c.swarm.pacing.Good ∧
    c.client.Good ∧ c.client.pool.Good ∧ c.log.Good
  /-- of the others it names the first part that is not good -/
  refused : ∀ e, c.validate = .error e → ∃ before part after, c.parts = before ++ part :: after ∧
    (∀ p ∈ before, p.good) ∧ ¬ part.good ∧ e.domain = part.domain
  /-- with a good pacing, a load shape is accepted exactly if its settings can be run -/
  settings : c.swarm.pacing.Good →
    (c.swarm.validate = .ok () ↔ (SwarmSettings.ofShape c.swarm).validate = .ok ())

/-- **The validation accepts exactly the configurations whose parts are good**, and names the first
    part of the others that is not. -/
theorem validate_judged (c : Configuration) : c.Judged where
  accepted := by
    rw [c.validate_decides.passes]
    simp only [parts, List.forall_mem_cons, List.not_mem_nil, false_imp_iff, implies_true, and_true]
  refused := c.validate_decides.names
  settings h := by
    have hpacing : c.swarm.pacing.validate = .ok () :=
      c.swarm.pacing.validate_decides.passes.2 (List.forall_mem_singleton.2 h)
    have hinterval : (SwarmSettings.ofShape c.swarm).statsInterval ≠ some Duration.zero := by
      show some (Duration.ofSeconds 10) ≠ some Duration.zero
      decide
    rw [LoadShape.validate_eq_ok_iff, SwarmSettings.validate_eq_ok_iff]
    exact ⟨fun ⟨h1, h2, h3, h4, _⟩ => ⟨h1, h2, h3, h4, hinterval⟩,
      fun ⟨h1, h2, h3, h4, _⟩ => ⟨h1, h2, h3, h4, hpacing⟩⟩

/-- Of a rate that is no number and a client without a name, the rate is named. -/
example :
    let c : Configuration :=
      { target := { host := "http://[::1]" }, swarm := { spawnRate := .nan }, client := { userAgent := " " } }
    c.validate = .error ⟨"swarm", .rateNotFinite⟩ := by
  decide +kernel

end Configuration

end LoadSwarm
