/-
  Filters from texts.

  * `Directive.parse_eq_of_notMem`: a directive without fields does not depend on which patterns there
    are.
  * `LogFilter.IsDirective`: a part of a text is a directive.
  * `LogFilter.added`: a text is added if all of its parts are directives; else the first part that is
    none is reported, as it is written.
  * `LogFilter.ofTexts_eq_ok_iff`, `LogFilter.exists_of_ofTexts_eq_error`: without a level from the command
    line only the directives of the configuration can be refused, whatever the environment says.
-/
import Mathlib
import LoadSwarm.Log.Filter

namespace LoadSwarm

/-! ## Directives -/

namespace Directive

/-- Only the end of the fields asks for patterns. -/
theorem step_eq_of_ne {c : Char} (hc : c ≠ '\x7d') (patterns patterns' : PatternReader)
    (cs : List Char) (d : Directive) (place : Place) (i : Nat) :
    step patterns cs d place i c = step patterns' cs d place i c := by
  cases place with
  | field b => simp only [step, if_neg hc]
  | start | word | span | afterFields | afterSpan | level => rfl

/-- **A directive without fields** does not depend on which patterns there are. -/
theorem parse_eq_of_notMem {s : String} (h : '\x7d' ∉ (Text.trim s).toList)
    (patterns patterns' : PatternReader) : parse patterns s = parse patterns' s := by
  unfold parse
  dsimp only
  refine congrArg (· >>= _) ?_
  generalize (({}, Place.start, 0) : Directive × Place × Nat) = state
  generalize (Text.trim s).toList = cs at h ⊢
  induction cs generalizing state with
  | nil => rfl
  | cons c rest ih =>
    rw [List.mem_cons, not_or] at h
    rw [List.foldlM_cons, List.foldlM_cons, step_eq_of_ne (Ne.symm h.1) patterns patterns']
    exact bind_congr fun state => ih state h.2

end Directive

/-! ## Filters -/

namespace LogFilter

variable {patterns : PatternReader}

/-- A part of a text is a directive, apart from the white space around it. -/
def IsDirective (patterns : PatternReader) (part : String) : Prop :=
  ∃ d, Directive.parse patterns (Text.trim part) = .ok d

variable {f : LogFilter} {part : String}

theorem addPart_of_ok {d : Directive} (h : Directive.parse patterns (Text.trim part) = .ok d) :
    addPart patterns f part = .ok (f.add d) := by
  unfold addPart
  rw [h]

theorem addPart_of_error {cause : DirectiveError}
    (h : Directive.parse patterns (Text.trim part) = .error cause) :
    addPart patterns f part = .error (.directive part cause) := by
  unfold addPart
  rw [h]

/-- What becomes of a list of parts: all of them are directives that are added in turn, or the first
    one that is none is reported. -/
inductive Added (patterns : PatternReader) (f : LogFilter) (ps : List String) :
    Except FilterError LogFilter → Prop
  | all (ds : List Directive)
    (read : ps.Forall₂ (fun p d => Directive.parse patterns (Text.trim p) = .ok d) ds) :
    Added patterns f ps (.ok (ds.foldl add f))
  | refused (front : List String) (part : String) (rest : List String) (cause : DirectiveError)
      (split : ps = front ++ part :: rest) (good : ∀ p ∈ front, IsDirective patterns p)
      (bad : Directive.parse patterns (Text.trim part) = .error cause) :
    Added patterns f ps (.error (.directive part cause))

theorem added (patterns : PatternReader) (f : LogFilter) (ps : List String) :
    Added patterns f ps (ps.foldlM (addPart patterns) f) := by
  induction ps generalizing f with
  | nil => exact .all [] .nil
  | cons p ps ih =>
    rw [List.foldlM_cons]
    rcases hp : Directive.parse patterns (Text.trim p) with cause | d
    · rw [addPart_of_error hp]
      exact .refused [] p ps cause rfl nofun hp
    · rw [addPart_of_ok hp]
      show Added patterns f (p :: ps) (ps.foldlM (addPart patterns) (f.add d))
      generalize hr : ps.foldlM (addPart patterns) (f.add d) = r
      cases hr ▸ ih (f.add d) with
      | all ds read => exact .all (d :: ds) (.cons hp read)
      | refused front part rest cause split good bad =>
        refine .refused (p :: front) part rest cause (by rw [split]; rfl) ?_ bad
        exact List.forall_mem_cons.2 ⟨⟨d, hp⟩, good⟩

variable {o : LogOptions} {env : Option String}

/-- The parts of the text that a configuration adds. -/
def configured (o : LogOptions) : List String := (o.filter.map parts).getD []

/-- **A filter without a level from the command line**: the rest of it is there in any case. -/
theorem ofTexts_added (patterns : PatternReader) (o : LogOptions) (env : Option String) :
    ∃ f, Added patterns f (configured o) (ofTexts patterns o none env) := by
  have hinitial : ∃ f, initial patterns o.level none env = .ok f := by
    unfold initial
    cases env <;> exact ⟨_, rfl⟩
  obtain ⟨f, hf⟩ := hinitial
  refine ⟨f, ?_⟩
  unfold ofTexts configured
  rw [hf]
  cases o.filter with
  | none => exact .all [] .nil
  | some text => exact added patterns f (parts text)

theorem Added.isOk_iff {ps : List String} {r : Except FilterError LogFilter}
    (h : Added patterns f ps r) : (∃ g, r = .ok g) ↔ ∀ p ∈ ps, IsDirective patterns p := by
  cases h with
  | all ds read =>
    refine iff_of_true ⟨_, rfl⟩ ?_
    induction read with
    | nil => exact nofun
    | cons hp _ ih => exact List.forall_mem_cons.2 ⟨⟨_, hp⟩, ih⟩
  | refused front part rest cause split good bad =>
    refine ⟨nofun, fun hall => ?_⟩
    obtain ⟨d, hd⟩ := hall part (by rw [split]; simp)
    rw [bad] at hd
    cases hd

/-- It is one if every configured part is a directive. -/
theorem ofTexts_eq_ok_iff : (∃ f, ofTexts patterns o none env = .ok f) ↔
    ∀ p ∈ configured o, IsDirective patterns p := by
  obtain ⟨f, hf⟩ := ofTexts_added patterns o env
  exact hf.isOk_iff

/-- Otherwise it names the first one that is none. -/
theorem exists_of_ofTexts_eq_error {e : FilterError} (h : ofTexts patterns o none env = .error e) :
    ∃ front part rest cause, configured o = front ++ part :: rest ∧
      (∀ p ∈ front, IsDirective patterns p) ∧
      Directive.parse patterns (Text.trim part) = .error cause ∧ e = .directive part cause := by
  obtain ⟨f, hf⟩ := ofTexts_added patterns o env
  rw [h] at hf
  cases hf with
  | refused front part rest cause split good bad => exact ⟨front, part, rest, cause, split, good, bad, rfl⟩

end LogFilter

end LoadSwarm
