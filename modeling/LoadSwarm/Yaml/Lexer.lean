/-
  From the characters of a YAML text to its tokens.

  * `LexState`: the cursor, the indentation, the places that may turn out to be
    keys, and the tokens that wait until that is known.
  * `LexState.fetch`: reads the next token.  An indicator `:` makes a key of the
    place that was remembered, in front of the tokens that wait.
  * `LexState.release`: hands over the tokens in front of which no key can come
    any more.
  * `tokens`: all tokens of a text, up to the end or to the first error.
-/
import LoadSwarm.Yaml.Lexer.Name

namespace LoadSwarm.Yaml

/-- A place that becomes a key if `:` follows on its line, within 1024 characters. -/
structure KeyPlace where
  /-- at this indentation nothing but a key can stand -/
  required : Bool
  /-- the number of tokens before it -/
  position : Nat
  mark : Mark
  deriving DecidableEq, Repr

/-- The state of reading tokens. -/
structure LexState where
  cursor : Cursor
  /-- the tokens read but not handed over -/
  waiting : List Token := []
  /-- the number of tokens handed over -/
  released : Nat := 0
  started : Bool := false
  /-- the column of the innermost block collection; -1 outside of all -/
  indent : Int := -1
  /-- the columns around it -/
  outer : List Int := []
  /-- a key may begin here -/
  keyAllowed : Bool := true
  /-- the possible key of each open flow collection, the innermost first, and of the block -/
  keys : List (Option KeyPlace) := [none]

namespace LexState

/-- Inside a flow collection. -/
def inFlow (s : LexState) : Bool := 1 < s.keys.length

/-- The innermost possible key. -/
def key? (s : LexState) : Option KeyPlace := s.keys.head?.join

/-- With another innermost possible key. -/
def setKey (s : LexState) (k : Option KeyPlace) : LexState := { s with keys := k :: s.keys.tail }

/-- With one more token. -/
def push (s : LexState) (t : Token) : LexState := { s with waiting := s.waiting ++ [t] }

/-- With a token in front of the one with the given number. -/
def insert (s : LexState) (position : Nat) (t : Token) : LexState :=
  let n := position - s.released
  { s with waiting := s.waiting.take n ++ t :: s.waiting.drop n }

/-- The error of a key without its `:`. -/
def noColon (s : LexState) (k : KeyPlace) : SyntaxError :=
  ⟨.noColon, s.cursor.mark, some (.simpleKey, k.mark)⟩

/-- Gives up the innermost possible key. -/
def dropKey (s : LexState) : Except SyntaxError LexState :=
  match s.key? with
  | some k => if k.required then .error (s.noColon k) else .ok (s.setKey none)
  | none => .ok (s.setKey none)

/-- Remembers that a key may begin here. -/
def saveKey (s : LexState) : Except SyntaxError LexState :=
  if s.keyAllowed then do
    let k : KeyPlace :=
      { required := !s.inFlow && s.indent = s.cursor.mark.column
        position := s.released + s.waiting.length
        mark := s.cursor.mark }
    return (← s.dropKey).setKey (some k)
  else .ok s

/-- Whether a possible key is out of reach. -/
def isStale (s : LexState) (k : KeyPlace) : Bool :=
  k.mark.line < s.cursor.mark.line || k.mark.index + 1024 < s.cursor.mark.index

/-- Gives up the possible keys that are out of reach. -/
def dropStale (s : LexState) : Except SyntaxError LexState :=
  match (s.keys.reduceOption).find? fun k => s.isStale k && k.required with
  | some k => .error (s.noColon k)
  | none => .ok { s with keys := s.keys.map fun k => k.filter (!s.isStale ·) }

/-- Opens a block collection at a column right of the innermost one; its token comes before
    the token with number `position`, or last. -/
def openBlock (s : LexState) (column : Nat) (position : Option Nat) (kind : TokenKind) (mark : Mark) :
    LexState :=
  if s.inFlow || (column : Int) ≤ s.indent then s
  else
    let s := { s with indent := column, outer := s.indent :: s.outer }
    match position with
    | some n => s.insert n ⟨kind, mark, mark⟩
    | none => s.push ⟨kind, mark, mark⟩

/-- Closes the block collections right of a column, at most `fuel`. -/
def closeBlocks (column : Int) : Nat → LexState → LexState
  | 0, s => s
  | fuel + 1, s =>
    if column < s.indent then
      closeBlocks column fuel
        { s.push ⟨.blockEnd, s.cursor.mark, s.cursor.mark⟩ with
          indent := s.outer.headD (-1), outer := s.outer.tail }
    else s

/-- Closes the block collections right of a column. -/
def closeTo (s : LexState) (column : Int) : LexState :=
  if s.inFlow then s else closeBlocks column (s.outer.length + 1) s

/-- Takes an indicator of `n` characters. -/
def indicator (s : LexState) (kind : TokenKind) (n : Nat) : LexState :=
  let after := s.cursor.skipN n
  { s.push ⟨kind, s.cursor.mark, after.mark⟩ with cursor := after }

/-- Skips blanks, comments and line ends before a token.  A tab may not stand where a key may
    begin. -/
def skipToToken : Nat → LexState → LexState
  | 0, s => s
  | fuel + 1, s =>
    let blank := fun x => x = ' ' || ((s.inFlow || !s.keyAllowed) && x = '\t')
    let c := (Cursor.skipWhile blank s.cursor.mark s.cursor.rest).comment
    match c.lineEnd with
    | ([], _) => { s with cursor := c }
    | (_, c) => skipToToken fuel { s with cursor := c, keyAllowed := s.keyAllowed || !s.inFlow }

/-- An error without an activity. -/
def misplaced (s : LexState) (p : Problem) : SyntaxError := ⟨p, s.cursor.mark, none⟩

/-- Closes all blocks at the end of the text, which counts as a line of its own. -/
def fetchEnd (s : LexState) : Except SyntaxError LexState := do
  let m := s.cursor.mark
  let m := if m.column ≠ 0 then ⟨m.index, m.line + 1, 0⟩ else m
  let s := { s with cursor := ⟨s.cursor.rest, m⟩ }
  let s ← (s.closeTo (-1)).dropKey
  return { s with keyAllowed := false }.push ⟨.streamEnd, m, m⟩

/-- Takes a directive. -/
def fetchDirective (s : LexState) : Except SyntaxError LexState := do
  let s ← (s.closeTo (-1)).dropKey
  let (kind, last, after) ← Lexer.directive s.cursor
  return { s.push ⟨kind, s.cursor.mark, last⟩ with cursor := after, keyAllowed := false }

/-- Takes the mark of a document's start or end. -/
def fetchDocumentMark (s : LexState) (kind : TokenKind) : Except SyntaxError LexState := do
  let s ← (s.closeTo (-1)).dropKey
  return { s with keyAllowed := false }.indicator kind 3

/-- Opens a flow collection. -/
def fetchFlowStart (s : LexState) (kind : TokenKind) : Except SyntaxError LexState := do
  let s ← s.saveKey
  return { s with keys := none :: s.keys, keyAllowed := true }.indicator kind 1

/-- Closes a flow collection. -/
def fetchFlowEnd (s : LexState) (kind : TokenKind) : Except SyntaxError LexState := do
  let s ← s.dropKey
  let s := if s.inFlow then { s with keys := s.keys.tail } else s
  return { s with keyAllowed := false }.indicator kind 1

/-- Takes a comma. -/
def fetchFlowEntry (s : LexState) : Except SyntaxError LexState := do
  let s ← s.dropKey
  return { s with keyAllowed := true }.indicator .flowEntry 1

/-- Takes a dash. -/
def fetchBlockEntry (s : LexState) : Except SyntaxError LexState := do
  if !s.inFlow && !s.keyAllowed then .error (s.misplaced .blockEntryHere)
  let m := s.cursor.mark
  let s ← (s.openBlock m.column none .blockSequenceStart m).dropKey
  return { s with keyAllowed := true }.indicator .blockEntry 1

/-- Takes a question mark. -/
def fetchKey (s : LexState) : Except SyntaxError LexState := do
  if !s.inFlow && !s.keyAllowed then .error (s.misplaced .keyHere)
  let m := s.cursor.mark
  let s ← (s.openBlock m.column none .blockMappingStart m).dropKey
  return { s with keyAllowed := !s.inFlow }.indicator .key 1

/-- Takes a colon. -/
def fetchValue (s : LexState) : Except SyntaxError LexState := do
  match s.key? with
  | some k =>
    let s := s.insert k.position ⟨.key, k.mark, k.mark⟩
    let s := (s.openBlock k.mark.column (some k.position) .blockMappingStart k.mark).setKey none
    return { s with keyAllowed := false }.indicator .value 1
  | none =>
    if !s.inFlow && !s.keyAllowed then .error (s.misplaced .valueHere)
    let m := s.cursor.mark
    let s := s.openBlock m.column none .blockMappingStart m
    return { s with keyAllowed := !s.inFlow }.indicator .value 1

/-- Takes an anchor or alias. -/
def fetchName (s : LexState) (reading : Activity) (kind : String → TokenKind) :
    Except SyntaxError LexState := do
  let s ← s.saveKey
  let (name, after) ← Lexer.anchorName reading s.cursor
  return { s.push ⟨kind name, s.cursor.mark, after.mark⟩ with cursor := after, keyAllowed := false }

/-- Takes a tag. -/
def fetchTag (s : LexState) : Except SyntaxError LexState := do
  let s ← s.saveKey
  let (front, suffix, after) ← Lexer.tag s.inFlow s.cursor
  return { s.push ⟨.tag front suffix, s.cursor.mark, after.mark⟩ with
    cursor := after, keyAllowed := false }

/-- With a scalar that was read. -/
def scalar (s : LexState) (style : ScalarStyle) (r : Lexer.Scanned) : LexState :=
  { s.push ⟨.scalar (String.ofList r.text) style, s.cursor.mark, r.last⟩ with cursor := r.cursor }

/-- Takes a block scalar. -/
def fetchBlockScalar (s : LexState) (folded : Bool) : Except SyntaxError LexState := do
  let s ← s.dropKey
  let r ← Lexer.block folded s.indent s.cursor
  return { s with keyAllowed := true }.scalar (if folded then .folded else .literal) r

/-- Takes a quoted scalar. -/
def fetchQuoted (s : LexState) (single : Bool) : Except SyntaxError LexState := do
  let s ← s.saveKey
  let r ← Lexer.quoted single s.cursor
  return { s with keyAllowed := false }.scalar (if single then .singleQuoted else .doubleQuoted) r

/-- Takes a plain scalar.  If lines were passed after it, a key may begin. -/
def fetchPlain (s : LexState) : Except SyntaxError LexState := do
  let s ← s.saveKey
  let r ← Lexer.plain s.inFlow (s.indent + 1).toNat s.cursor
  return { s with keyAllowed := r.passedLine }.scalar .plain r

/-- A character that cannot begin a plain scalar on its own. -/
def isIndicator (c : Char) : Bool :=
  "-?:,[]\x7b\x7d#&*!|>'\"%@".toList.contains c || c.toNat = 0x60

/-- Whether a plain scalar begins with `x`, before `rest`. -/
def startsPlain (s : LexState) (x : Char) (rest : List Char) : Bool :=
  (!endsWord [x] && !isIndicator x) ||
    (x = '-' && !(match rest with | y :: _ => isBlank y | [] => false)) ||
    (!s.inFlow && (x = '?' || x = ':') && !endsWord rest)

/-- Reads the next token at the cursor. -/
def fetchHere (s : LexState) : Except SyntaxError LexState :=
  match s.cursor.rest with
  | [] => s.fetchEnd
  | x :: rest =>
    if s.cursor.mark.column = 0 && x = '%' then s.fetchDirective
    else if s.cursor.atDocumentMark then
      s.fetchDocumentMark (if x = '-' then .documentStart else .documentEnd)
    else if x = '[' then s.fetchFlowStart .flowSequenceStart
    else if x = '\x7b' then s.fetchFlowStart .flowMappingStart
    else if x = ']' then s.fetchFlowEnd .flowSequenceEnd
    else if x = '\x7d' then s.fetchFlowEnd .flowMappingEnd
    else if x = ',' then s.fetchFlowEntry
    else if x = '-' && endsWord rest then s.fetchBlockEntry
    else if x = '?' && (s.inFlow || endsWord rest) then s.fetchKey
    else if x = ':' && (s.inFlow || endsWord rest) then s.fetchValue
    else if x = '*' then s.fetchName .aliasName .aliasTo
    else if x = '&' then s.fetchName .anchor .anchor
    else if x = '!' then s.fetchTag
    else if x = '|' && !s.inFlow then s.fetchBlockScalar false
    else if x = '>' && !s.inFlow then s.fetchBlockScalar true
    else if x = '\'' then s.fetchQuoted true
    else if x = '"' then s.fetchQuoted false
    else if s.startsPlain x rest then s.fetchPlain
    else .error ⟨.noTokenStart, s.cursor.mark, some (.nextToken, s.cursor.mark)⟩

/-- Reads the next token; the first one is the start of the stream. -/
def fetch (s : LexState) : Except SyntaxError LexState :=
  if s.started then do
    let s ← (skipToToken (s.cursor.rest.length + 1) s).dropStale
    (s.closeTo s.cursor.mark.column).fetchHere
  else .ok ({ s with started := true }.push ⟨.streamStart, s.cursor.mark, s.cursor.mark⟩)

/-- Hands over the waiting tokens in front of which no key can come any more; an error comes
    after the tokens handed over before it. -/
def release : Nat → LexState → List Token × Except SyntaxError LexState
  | 0, s => ([], .ok s)
  | fuel + 1, s =>
    match s.waiting with
    | [] => ([], .ok s)
    | t :: ts =>
      match s.dropStale with
      | .error e => ([], .error e)
      | .ok s =>
        if s.keys.any fun k => k.any (·.position = s.released) then ([], .ok s)
        else
          let (front, result) := release fuel { s with waiting := ts, released := s.released + 1 }
          (t :: front, result)

/-- Reads tokens until the end of the stream or an error. -/
def run : Nat → LexState → List Token × Option SyntaxError
  | 0, _ => ([], none)
  | fuel + 1, s =>
    match s.fetch with
    | .error e => ([], some e)
    | .ok s =>
      match release s.waiting.length s with
      | (front, .error e) => (front, some e)
      | (front, .ok s) =>
        if front.getLast?.any (·.kind = .streamEnd) then (front, none)
        else
          let (more, e) := run fuel s
          (front ++ more, e)

end LexState

/-- The tokens of a text, and the error that stops it. -/
def tokens (cs : List Char) : List Token × Option SyntaxError :=
  match Cursor.ofText cs with
  | .error e => ([], some e)
  | .ok c => LexState.run (c.rest.length + 3) { cursor := c }

end LoadSwarm.Yaml
