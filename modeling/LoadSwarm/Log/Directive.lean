/-
  Directives that say what is logged.

  * `Threshold`: the levels that are logged.
  * `Directive.parse`: `target[span{field=value}]=level`, any part of which may be
    missing.
-/
import LoadSwarm.Config.Basic
import LoadSwarm.Log.Pattern
import LoadSwarm.Number.Decimal
import LoadSwarm.Number.Signed
import LoadSwarm.Text.Blank

namespace LoadSwarm

/-! ## Levels -/

/-- How much a level tells, from one for errors to five. -/
def LogLevel.rank : LogLevel → Nat
  | error => 1
  | warn => 2
  | info => 3
  | debug => 4
  | trace => 5

/-- The levels up to a rank are logged. -/
structure Threshold where
  rank : Nat
  deriving DecidableEq, Repr

namespace Threshold

/-- Nothing is logged. -/
def off : Threshold := ⟨0⟩

/-- Everything is logged. -/
def all : Threshold := ⟨LogLevel.trace.rank⟩

/-- Whether a level is logged. -/
def admits (t : Threshold) (l : LogLevel) : Bool := l.rank ≤ t.rank

/-- Reads a number up to five or a word in any letter case; an empty text means errors. -/
def parse (s : String) : Option Threshold :=
  match Unsigned.parse Unsigned.max64 s with
  | .ok n => if n ≤ 5 then some ⟨n⟩ else none
  | .error _ =>
    let word := Text.lowerAscii s
    if s = "" then some ⟨LogLevel.error.rank⟩
    else if word = "off" then some off
    else (LogLevel.all.find? (·.name = word)).map fun l => ⟨l.rank⟩

end Threshold

/-! ## Directives -/

/-- Why a text is no directive. -/
inductive DirectiveError where
  | malformed
  | badLevel
  | badPattern (e : PatternError)
  deriving DecidableEq, Repr

/-- The wording of the reason, followed by the causes below it. -/
def DirectiveError.chain : DirectiveError → List String
  | malformed => ["invalid filter directive"]
  | badLevel =>
    let text :=
      "error parsing level filter: expected one of \"off\", \"error\", \"warn\", \"info\", " ++
        "\"debug\", \"trace\", or a number 0-5"
    [text, text]
  | badPattern e => ("invalid field filter: " ++ e.wording) :: e.wording :: e.causes

/-- What is logged of some origins. -/
structure Directive where
  /-- how the origin begins -/
  target : Option String := none
  /-- the name of a span around -/
  span : Option String := none
  /-- fields that have to be there, with whether their values count too -/
  fields : List (String × Bool) := []
  threshold : Threshold := Threshold.all
  deriving DecidableEq, Repr

namespace Directive

/-- Whether a text is a value by itself and no pattern. -/
def isPlainValue (s : String) : Bool :=
  s = "true" || s = "false" || (Unsigned.parse Unsigned.max64 s).toBool ||
    (Signed.parse s).toBool || (Binary64.parse s).toBool

/-- Reads a field, with the value behind an equals sign. -/
def parseField (patterns : PatternReader) (s : String) : Except DirectiveError (String × Bool) :=
  match Text.split '=' s with
  | [] | [""] => .error .malformed
  | [name] => .ok (name, false)
  | name :: value :: _ =>
    if isPlainValue value then .ok (name, true)
    else
      match patterns value with
      | some e => .error (.badPattern e)
      | none => .ok (name, true)

/-- Reads the level behind an equals sign; without a word everything is logged. -/
def parseLevel (s : String) : Except DirectiveError Threshold :=
  if s = "" then .ok Threshold.all
  else
    match Threshold.parse s with
    | some t => .ok t
    | none => .error .badLevel

/-- A text that is a level, or else a target of which everything is logged. -/
def ofWord (s : String) : Directive :=
  if s = "" then {}
  else
    match Threshold.parse s with
    | some t => { threshold := t }
    | none => { target := some s }

/-- Where a reader is; positions are counted from the front of the text. -/
inductive Place where
  | start
  | word (begin : Nat)
  | span (begin : Nat)
  | field (begin : Nat)
  | afterFields
  | afterSpan
  | level (begin : Nat)

/-- Whether a directive can begin with a character. -/
def canBegin (c : Char) : Bool :=
  c = '-' || c = ':' || c = '_' || c.isAlphanum || (0x80 ≤ c.toNat && !Text.isBlankChar c)

/-- A part of a text. -/
def part (cs : List Char) (start stop : Nat) : String := String.ofList ((cs.take stop).drop start)

/-- One character further. -/
def step (patterns : PatternReader) (cs : List Char) (d : Directive) (place : Place) (i : Nat)
    (c : Char) : Except DirectiveError (Directive × Place) :=
  match place with
  | .start =>
    if c = '[' then .ok (d, .span (i + 1))
    else if canBegin c then .ok (d, .word i)
    else .error .malformed
  | .word b =>
    if c = '=' then .ok ({ d with target := some (part cs b i) }, .level (i + 1))
    else if c = '[' then .ok ({ d with target := some (part cs b i) }, .span (i + 1))
    else .ok (d, .word b)
  | .span b =>
    if c = ']' then .ok ({ d with span := some (part cs b i) }, .afterSpan)
    else if c = '\x7b' then
      let name := part cs b i
      .ok ({ d with span := if name = "" then none else some name }, .field (i + 1))
    else .ok (d, .span b)
  | .field b =>
    if c = '\x7d' then do
      let f ← parseField patterns (part cs b i)
      return ({ d with fields := d.fields ++ [f] }, .afterFields)
    else .ok (d, .field b)
  | .afterFields => if c = ']' then .ok (d, .afterSpan) else .error .malformed
  | .afterSpan => if c = '=' then .ok (d, .level (i + 1)) else .error .malformed
  | .level b => .ok (d, .level b)

/-- The end of a directive. -/
def finish (cs : List Char) (d : Directive) (place : Place) : Except DirectiveError Directive :=
  match place with
  | .word b => .ok { ofWord (part cs b cs.length) with span := d.span, fields := d.fields }
  | .level b => do
    let t ← parseLevel (part cs b cs.length)
    return { d with threshold := t }
  | .afterSpan => .ok d
  | _ => .error .malformed

/-- Reads a directive that holds no comma.  Positions in the text without the white space
    around it are taken for positions in the whole text. -/
def parse (patterns : PatternReader) (s : String) : Except DirectiveError Directive := do
  let cs := s.toList
  let walk (state : Directive × Place × Nat) (c : Char) : Except DirectiveError (Directive × Place × Nat) := do
    let (d, place) ← step patterns cs state.1 state.2.1 state.2.2 c
    return (d, place, state.2.2 + 1)
  let (d, place, _) ← (Text.trim s).toList.foldlM walk ({}, .start, 0)
  finish cs d place

end Directive

end LoadSwarm
