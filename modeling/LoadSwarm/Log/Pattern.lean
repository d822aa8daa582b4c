/-
  Patterns for the values of logged fields.

  * `PatternReader`: tells of a text why it is no pattern, if it is none.  Which texts are
    patterns is not up to the program; it relies on a reader.
  * `PatternFault`: the first fault of a regular expression, with marks below its places.
  * `Pattern.step`, `Pattern.finish`: a reader that goes from character to character
    through groups with flags and names, alternatives, repetitions, sets and escaped
    characters.  A pattern is a part of a directive and holds no comma and no closing
    brace, so whatever begins with an opening brace has no end in it.  Where white space
    is to be left out, it is read all the same.
  * `Pattern.reader`: the reader as the program uses it.
-/

namespace LoadSwarm

/-! ## Readers -/

/-- Why a text is no pattern. -/
structure PatternError where
  wording : String
  /-- the wordings of the causes below, the nearest one first -/
  causes : List String := []
  deriving DecidableEq, Repr

/-- What tells of a text why it is no pattern, if it is none. -/
abbrev PatternReader := String → Option PatternError

/-! ## Faults of regular expressions -/

/-- What is wrong with a regular expression. -/
inductive PatternProblem where
  | unclosedGroup
  | unopenedGroup
  | emptyName
  | badName
  | repeatedName
  | endInName
  | unknownFlag
  | repeatedFlag
  | repeatedNegation
  | danglingNegation
  | endInFlags
  | lookAround
  | nothingToRepeat
  | unclosedCount
  | noCount
  | unclosedSet
  | badRange
  | badBoundary
  | badSetEscape
  | endInEscape
  | unknownEscape
  | badDigit
  | noCharacter
  | badProperty
  | unknownProperty
  | backReference
  deriving DecidableEq, Repr

/-- The wording of a problem. -/
def PatternProblem.message : PatternProblem → String
  | unclosedGroup => "unclosed group"
  | unopenedGroup => "unopened group"
  | emptyName => "empty capture group name"
  | badName => "invalid capture group character"
  | repeatedName => "duplicate capture group name"
  | endInName => "unclosed capture group name"
  | unknownFlag => "unrecognized flag"
  | repeatedFlag => "duplicate flag"
  | repeatedNegation => "flag negation operator repeated"
  | danglingNegation => "dangling flag negation operator"
  | endInFlags => "expected flag but got end of regex"
  | lookAround => "look-around, including look-ahead and look-behind, is not supported"
  | nothingToRepeat => "repetition operator missing expression"
  | unclosedCount => "unclosed counted repetition"
  | noCount => "repetition quantifier expects a valid decimal"
  | unclosedSet => "unclosed character class"
  | badRange => "invalid character class range, the start must be <= the end"
  | badBoundary => "invalid range boundary, must be a literal"
  | badSetEscape => "invalid escape sequence found in character class"
  | endInEscape => "incomplete escape sequence, reached end of pattern prematurely"
  | unknownEscape => "unrecognized escape sequence"
  | badDigit => "invalid hexadecimal digit"
  | noCharacter => "hexadecimal literal is not a Unicode scalar value"
  | badProperty => "invalid Unicode character class"
  | unknownProperty => "Unicode property not found"
  | backReference => "backreferences are not supported"

/-- A problem with the places that it is about. -/
structure PatternFault where
  problem : PatternProblem
  /-- where they begin and how long they are, from the left -/
  places : List (Nat × Nat)
  deriving DecidableEq, Repr

/-- A line with marks below places, from a column on. -/
def PatternFault.marks : Nat → List (Nat × Nat) → String
  | _, [] => ""
  | column, (place, length) :: rest =>
    "".pushn ' ' (place - column) ++ "".pushn '^' (max 1 length) ++
      marks (max column place + max 1 length) rest

/-- A fault of a pattern, with marks below its places. -/
def PatternFault.text (pattern : String) (f : PatternFault) : String :=
  "regex parse error:\n    " ++ pattern ++ "\n    " ++ PatternFault.marks 0 f.places ++ "\nerror: " ++
    f.problem.message

namespace Pattern

/-! ## What has been read -/

/-- What a piece of a pattern stands for. -/
inductive PieceKind where
  | letter (c : Char)
  | letters
  | boundary
  deriving DecidableEq, Repr

/-- A piece of a pattern. -/
structure Piece where
  place : Nat
  length : Nat
  kind : PieceKind
  deriving DecidableEq, Repr

/-- What stands at the front of a set and is not in it. -/
inductive Front where
  | bracket
  | negation
  | dashes
  deriving DecidableEq, Repr

/-- A set of characters that is open. -/
structure OpenSet where
  place : Nat
  /-- how long its front is -/
  length : Nat := 1
  /-- the front, while it lasts -/
  front : Option Front := some .bracket
  /-- a sign that is an operation if it comes twice -/
  sign : Option Char := none
  /-- a piece that may begin a range -/
  piece : Option Piece := none
  /-- whether a dash stands behind the piece -/
  dash : Bool := false

/-- What a reader is in the middle of. -/
inductive Mode where
  | plain
  | escape (start : Nat)
  | digits (start first left value : Nat)
  | braced (start : Nat)
  | property (start : Nat)
  | bracedProperty
  | group (start : Nat)
  | question (start : Nat)
  | questionName (start : Nat)
  | angle (start : Nat)
  | name (start first : Nat) (letters : List Char)
  | flags (start : Nat) (seen : List (Char × Nat)) (dangling : Bool)
  | countStart (start : Nat)
  | count (start : Nat)
  | countEnd (start : Nat)

/-- What has been read of a pattern. -/
structure State where
  place : Nat := 0
  mode : Mode := .plain
  /-- whether something stands there that could be repeated -/
  repeatable : Bool := false
  /-- the places of the groups that are open, the innermost one first -/
  groups : List Nat := []
  /-- the names of groups, with their places -/
  names : List (List Char × Nat) := []
  /-- the sets that are open, the innermost one first -/
  sets : List OpenSet := []
  /-- the first fault that does not keep from reading on -/
  late : Option PatternFault := none

/-- A fault at one place. -/
def fault {α : Type} (problem : PatternProblem) (place : Nat) (length : Nat := 1) : Except PatternFault α :=
  .error ⟨problem, [(place, length)]⟩

/-! ## Sets -/

/-- A piece belongs to a set for itself. -/
def Piece.alone (x : Piece) : Except PatternFault Unit :=
  if x.kind = .boundary then fault .badSetEscape x.place x.length else .ok ()

/-- Two pieces are the bounds of a range. -/
def Piece.upTo (x y : Piece) : Except PatternFault Unit :=
  match x.kind, y.kind with
  | .letter a, .letter b =>
    if b < a then fault .badRange x.place (y.place + y.length - x.place) else .ok ()
  | .letter _, _ => fault .badBoundary y.place y.length
  | _, _ => fault .badBoundary x.place x.length

/-- The innermost set ends. -/
def closeSet (s : State) (outer : List OpenSet) : State :=
  { s with sets := outer, repeatable := true }

/-- A character where something begins in a set. -/
def beginInSet (s : State) (set : OpenSet) (outer : List OpenSet) (c : Char) : State :=
  let set := { set with front := none, sign := none, piece := none, dash := false }
  if c = '[' then { s with sets := { place := s.place } :: set :: outer }
  else if c = ']' then closeSet s outer
  else if c = '&' || c = '-' || c = '~' then { s with sets := { set with sign := some c } :: outer }
  else { s with sets := { set with piece := some ⟨s.place, 1, .letter c⟩ } :: outer }

/-- A character behind a piece in a set. -/
def behindPiece (s : State) (set : OpenSet) (outer : List OpenSet) (x : Piece) (c : Char) :
    Except PatternFault State := do
  if set.dash then
    if c = ']' || c = '-' then
      x.alone
      return if c = ']' then closeSet s outer
        else { s with sets := { set with piece := none, dash := false } :: outer }
    else
      x.upTo ⟨s.place, 1, .letter c⟩
      return { s with sets := { set with piece := none, dash := false } :: outer }
  else if c = '-' then
    return { s with sets := { set with sign := none, piece := some x, dash := true } :: outer }
  else
    x.alone
    return beginInSet s set outer c

/-- A character in a set, other than a backslash. -/
def inSet (s : State) (set : OpenSet) (outer : List OpenSet) (c : Char) : Except PatternFault State :=
  match set.front, set.sign, set.piece with
  | some .bracket, _, _ =>
    if c = '^' then
      .ok { s with sets := { set with front := some .negation, length := set.length + 1 } :: outer }
    else inFront .bracket
  | some f, _, _ => inFront f
  | none, some sign, _ =>
    if c = sign then .ok { s with sets := { set with sign := none } :: outer }
    else behindPiece s set outer ⟨s.place - 1, 1, .letter sign⟩ c
  | none, none, some x => behindPiece s set outer x c
  | none, none, none => .ok (beginInSet s set outer c)
where
  /-- A dash or a first closing bracket stands for itself. -/
  inFront (f : Front) : Except PatternFault State :=
    if c = '-' then
      .ok { s with sets := { set with front := some .dashes, length := set.length + 1 } :: outer }
    else if c = ']' && f ≠ .dashes then
      .ok { s with sets := { set with front := none, length := set.length + 1 } :: outer }
    else .ok (beginInSet s set outer c)

/-- A backslash. -/
def beginEscape (s : State) : Except PatternFault State :=
  let s := { s with mode := .escape s.place }
  match s.sets with
  | [] => .ok s
  | set :: outer =>
    if set.dash then .ok s
    else do
      if let some x := set.piece then x.alone
      return { s with sets := { set with front := none, sign := none, piece := none } :: outer }

/-- A piece that has been read to its end. -/
def addPiece (s : State) (x : Piece) : Except PatternFault State :=
  let s := { s with mode := .plain }
  match s.sets with
  | [] => .ok { s with repeatable := true }
  | set :: outer =>
    match set.piece with
    | some first => do
      first.upTo x
      return { s with sets := { set with piece := none, dash := false } :: outer }
    | none => .ok { s with sets := { set with piece := some x } :: outer }

/-! ## Escaped characters -/

/-- The value of a hexadecimal digit. -/
def digitValue? (c : Char) : Option Nat :=
  if c.isDigit then some (c.toNat - '0'.toNat)
  else if 'a' ≤ c && c ≤ 'f' then some (c.toNat - 'a'.toNat + 10)
  else if 'A' ≤ c && c ≤ 'F' then some (c.toNat - 'A'.toNat + 10)
  else none

/-- What a backslash makes of the character behind it, if that is all of it. -/
def escaped? (c : Char) : Option PieceKind :=
  match c with
  | 'a' => some (.letter (Char.ofNat 7))
  | 'f' => some (.letter (Char.ofNat 12))
  | 't' => some (.letter '\t')
  | 'n' => some (.letter '\n')
  | 'r' => some (.letter '\r')
  | 'v' => some (.letter (Char.ofNat 11))
  | 'd' | 'D' | 's' | 'S' | 'w' | 'W' => some .letters
  | 'A' | 'z' | 'b' | 'B' | '<' | '>' => some .boundary
  | c => if c.toNat < 0x80 && !c.isAlphanum then some (.letter c) else none

/-- The character behind a backslash. -/
def inEscape (s : State) (start : Nat) (c : Char) : Except PatternFault State :=
  if c.isDigit then fault .backReference start 2
  else
    match c with
    | 'x' => .ok { s with mode := .digits start (s.place + 1) 2 0 }
    | 'u' => .ok { s with mode := .digits start (s.place + 1) 4 0 }
    | 'U' => .ok { s with mode := .digits start (s.place + 1) 8 0 }
    | 'p' | 'P' => .ok { s with mode := .property start }
    | c =>
      match escaped? c with
      | some kind => addPiece s ⟨start, 2, kind⟩
      | none => fault .unknownEscape start 2

/-- A digit of a character. -/
def inDigits (s : State) (start first left value : Nat) (c : Char) : Except PatternFault State :=
  if c = '\x7b' && s.place = first then .ok { s with mode := .braced s.place }
  else
    match digitValue? c with
    | none => fault .badDigit s.place
    | some d =>
      let value := 16 * value + d
      if 1 < left then .ok { s with mode := .digits start first (left - 1) value }
      else if h : value.isValidChar then
        addPiece s ⟨start, s.place + 1 - start, .letter (Char.ofNatAux value h)⟩
      else fault .noCharacter first (s.place + 1 - first)

/-- The letter of a property of characters. -/
def inProperty (s : State) (start : Nat) (c : Char) : Except PatternFault State :=
  if c = '\\' then fault .badProperty s.place
  else if c = '\x7b' then .ok { s with mode := .bracedProperty }
  else
    let known := "CLMNPSZ".toList.contains c.toUpper
    let unknown : PatternFault := ⟨.unknownProperty, [(start, 3)]⟩
    addPiece { s with late := if known then s.late else s.late.or (some unknown) } ⟨start, 3, .letters⟩

/-! ## Groups -/

/-- A group opens. -/
def openGroup (s : State) (start : Nat) : State :=
  { s with mode := .plain, repeatable := false, groups := start :: s.groups }

/-- A character of the name of a group. -/
def inName (s : State) (start first : Nat) (letters : List Char) (c : Char) : Except PatternFault State :=
  let isLetter (c : Char) := c.isAlpha || c = '_' || 0x80 ≤ c.toNat
  if c = '>' then
    if letters.isEmpty then fault .emptyName first
    else
      match s.names.lookup letters with
      | some before => .error ⟨.repeatedName, [(before, letters.length), (first, letters.length)]⟩
      | none => .ok { openGroup s start with names := (letters, first) :: s.names }
  else if isLetter c || (!letters.isEmpty && (c.isDigit || c = '.' || c = '[' || c = ']')) then
    .ok { s with mode := .name start first (letters ++ [c]) }
  else fault .badName s.place

/-- A character among flags. -/
def inFlags (s : State) (start : Nat) (seen : List (Char × Nat)) (dangling : Bool) (c : Char) :
    Except PatternFault State :=
  if c = ':' || c = ')' then
    if dangling then fault .danglingNegation (s.place - 1)
    else if c = ':' then .ok (openGroup s start)
    else if seen.isEmpty then fault .nothingToRepeat (start + 1)
    else .ok { s with mode := .plain, repeatable := false }
  else if c = '-' || "imsUuRx".toList.contains c then
    match seen.lookup c with
    | some before =>
      .error ⟨if c = '-' then .repeatedNegation else .repeatedFlag, [(before, 1), (s.place, 1)]⟩
    | none => .ok { s with mode := .flags start ((c, s.place) :: seen) (c = '-') }
  else fault .unknownFlag s.place

/-- A character behind the question mark of a group. -/
def inQuestion (s : State) (start : Nat) (c : Char) : Except PatternFault State :=
  match c with
  | '=' | '!' => fault .lookAround start 3
  | '<' => .ok { s with mode := .angle start }
  | 'P' => .ok { s with mode := .questionName start }
  | c => inFlags s start [] false c

/-! ## Characters -/

/-- A character outside of sets and other things. -/
def inPlain (s : State) (c : Char) : Except PatternFault State :=
  match c with
  | '(' => .ok { s with mode := .group s.place }
  | ')' =>
    match s.groups with
    | [] => fault .unopenedGroup s.place
    | _ :: groups => .ok { s with groups := groups, repeatable := true }
  | '|' => .ok { s with repeatable := false }
  | '*' | '+' | '?' => if s.repeatable then .ok s else fault .nothingToRepeat s.place
  | '\x7b' =>
    if s.repeatable then .ok { s with mode := .countStart s.place } else fault .nothingToRepeat s.place
  | '[' => .ok { s with sets := [{ place := s.place }] }
  | '\\' => beginEscape s
  | _ => .ok { s with repeatable := true }

/-- A character, wherever it stands. -/
def read (s : State) (c : Char) : Except PatternFault State :=
  match s.mode with
  | .plain =>
    match s.sets with
    | [] => inPlain s c
    | set :: outer => if c = '\\' then beginEscape s else inSet s set outer c
  | .escape start => inEscape s start c
  | .digits start first left value => inDigits s start first left value c
  | .braced _ => if (digitValue? c).isSome then .ok s else fault .badDigit s.place
  | .property start => inProperty s start c
  | .bracedProperty => .ok s
  | .group start =>
    if c = '?' then .ok { s with mode := .question start } else inPlain (openGroup s start) c
  | .question start => inQuestion s start c
  | .questionName start =>
    if c = '<' then .ok { s with mode := .name start (s.place + 1) [] }
    else fault .unknownFlag (s.place - 1)
  | .angle start =>
    if c = '=' || c = '!' then fault .lookAround start 4 else inName s start s.place [] c
  | .name start first letters => inName s start first letters c
  | .flags start seen dangling => inFlags s start seen dangling c
  | .countStart start =>
    if c.isWhitespace then .ok s
    else if c.isDigit then .ok { s with mode := .count start }
    else fault .noCount s.place
  | .count start =>
    if c.isDigit then .ok s
    else if c.isWhitespace then .ok { s with mode := .countEnd start }
    else fault .unclosedCount start (s.place - start)
  | .countEnd start =>
    if c.isWhitespace then .ok s else fault .unclosedCount start (s.place - start)

/-- One character further. -/
def step (s : State) (c : Char) : Except PatternFault State := do
  let s ← read s c
  return { s with place := s.place + 1 }

/-- The fault of a pattern that ends here. -/
def finish (s : State) : Except PatternFault Unit :=
  match s.mode, s.sets, s.groups with
  | .escape start, _, _ => fault .endInEscape start
  | .digits .., _, _ | .property _, _, _ | .bracedProperty, _, _ => fault .endInEscape s.place
  | .braced start, _, _ => fault .endInEscape start (s.place - start)
  | .group start, _, _ | .question start, _, _ => fault .unclosedGroup start
  | .questionName _, _, _ => fault .unknownFlag (s.place - 1)
  | .angle _, _, _ | .name .., _, _ => fault .endInName s.place
  | .flags .., _, _ => fault .endInFlags s.place
  | .countStart start, _, _ | .count start, _, _ | .countEnd start, _, _ =>
    fault .unclosedCount start (s.place - start)
  | .plain, set :: _, _ =>
    fault .unclosedSet set.place (if set.front = some .dashes then 1 else set.length)
  | .plain, [], start :: _ => fault .unclosedGroup start
  | .plain, [], [] =>
    match s.late with
    | some f => .error f
    | none => .ok ()

/-- Reads a pattern. -/
def check (pattern : String) : Except PatternFault Unit := do
  finish (← pattern.toList.foldlM step {})

/-- The reader of regular expressions. -/
def reader : PatternReader := fun pattern =>
  match check pattern with
  | .ok () => none
  | .error f => some ⟨"error building NFA", ["error parsing regex", f.text pattern]⟩

end Pattern

end LoadSwarm
