/-
  From tokens to the events of a document.

  * `Event`: a scalar, an alias, or the start or end of a collection.
  * `EventState.step`: one event of the grammar; `Expect` says which rule comes
    next, and a stack holds the rules to come back to.
  * `Stream.ofTokens`: the events of the first document, the error that cut them
    off, and whether anything follows the document.
-/
import LoadSwarm.Yaml.Token

namespace LoadSwarm.Yaml

/-- What an event is; `ν` is the type of the names of anchors. -/
inductive EventKind (ν : Type) where
  | streamStart
  | streamEnd
  | documentStart
  | documentEnd
  | aliasTo (name : ν)
  | scalar (anchor : Option ν) (tag : Option String) (text : String) (style : ScalarStyle)
  | sequenceStart (anchor : Option ν) (tag : Option String)
  | sequenceEnd
  | mappingStart (anchor : Option ν) (tag : Option String)
  | mappingEnd
  deriving DecidableEq, Repr

/-- An event and the place where it begins. -/
structure Event (ν : Type) where
  kind : EventKind ν
  mark : Mark
  deriving DecidableEq, Repr

/-- The rule that the next event follows. -/
inductive Expect where
  | streamStart
  | documentStart (implicit : Bool)
  | documentContent
  | documentEnd
  | blockNode
  | blockEntry (first : Bool)
  | looseEntry
  | blockKey (first : Bool)
  | blockValue
  | flowEntry (first : Bool)
  | pairKey
  | pairValue
  | pairEnd
  | flowKey (first : Bool)
  | flowValue (empty : Bool)
  | nothing
  deriving DecidableEq, Repr

/-- The state of making events. -/
structure EventState where
  tokens : List Token
  /-- why there are no more tokens -/
  failure : SyntaxError
  expect : Expect := .streamStart
  /-- the rules to come back to -/
  later : List Expect := []
  /-- where the open collections began -/
  opened : List Mark := []
  /-- what the handles of tags stand for -/
  handles : List (String × String) := []

namespace EventState

/-- An event and the state after it. -/
abbrev Step := Except SyntaxError (Event String × EventState)

/-- The next token. -/
def peek (s : EventState) : Except SyntaxError Token :=
  match s.tokens with
  | t :: _ => .ok t
  | [] => .error s.failure

/-- Without the next token. -/
def drop (s : EventState) : EventState := { s with tokens := s.tokens.tail }

/-- Back to the rule on top of the stack. -/
def back (s : EventState) : EventState :=
  { s with expect := s.later.headD .nothing, later := s.later.tail }

/-- Back to a rule once the next one is done. -/
def andThen (s : EventState) (e : Expect) : EventState := { s with later := e :: s.later }

/-- A scalar that is not written. -/
def emptyScalar (s : EventState) (m : Mark) : Event String × EventState :=
  (⟨.scalar none none "" .plain, m⟩, s)

/-- The end of a collection, by its last token. -/
def close (s : EventState) (kind : EventKind String) (t : Token) : Event String × EventState :=
  (⟨kind, t.first⟩, { s.drop.back with opened := s.opened.tail })

/-- An error inside the innermost open collection. -/
def broken (s : EventState) (a : Activity) (p : Problem) (t : Token) : SyntaxError :=
  ⟨p, t.first, some (a, s.opened.headD Mark.start)⟩

/-- The anchor and the tag in front of a node, with the place of the tag. -/
structure Properties where
  anchor : Option String := none
  tag : Option (String × String × Mark) := none
  first : Mark

/-- Takes the anchor and the tag in front of a node, in either order. -/
def properties (s : EventState) : Except SyntaxError (Properties × EventState) := do
  let t ← s.peek
  match t.kind with
  | .anchor a =>
    let s := s.drop
    let u ← s.peek
    match u.kind with
    | .tag h x => return (⟨some a, some (h, x, u.first), t.first⟩, s.drop)
    | _ => return (⟨some a, none, t.first⟩, s)
  | .tag h x =>
    let s := s.drop
    let u ← s.peek
    match u.kind with
    | .anchor a => return (⟨some a, some (h, x, t.first), t.first⟩, s.drop)
    | _ => return (⟨none, some (h, x, t.first), t.first⟩, s)
  | _ => return (⟨none, none, t.first⟩, s)

/-- The full text of a tag. -/
def resolveTag (s : EventState) (p : Properties) : Except SyntaxError (Option String) :=
  match p.tag with
  | none => .ok none
  | some (front, suffix, mark) =>
    if front = "" then .ok (some suffix)
    else match s.handles.find? (·.1 = front) with
      | some (_, meaning) => .ok (some (meaning ++ suffix))
      | none => .error ⟨.undefinedTagHandle, mark, some (.node, p.first)⟩

/-- A node.  Block collections only where `block` holds, and a sequence without indentation
    of its own only where `loose` holds. -/
def node (block loose : Bool) (s : EventState) : Step := do
  let t ← s.peek
  match t.kind with
  | .aliasTo name => return (⟨.aliasTo name, t.first⟩, s.back.drop)
  | _ =>
    let (p, s) ← s.properties
    let tag ← s.resolveTag p
    let t ← s.peek
    let start := fun (kind : EventKind String) (e : Expect) => (⟨kind, p.first⟩, { s with expect := e })
    match t.kind with
    | .scalar text style =>
      let tag := if tag = some "!" then none else tag
      return (⟨.scalar p.anchor tag text style, p.first⟩, s.back.drop)
    | .flowSequenceStart => return start (.sequenceStart p.anchor tag) (.flowEntry true)
    | .flowMappingStart => return start (.mappingStart p.anchor tag) (.flowKey true)
    | kind =>
      if loose && kind = .blockEntry then return start (.sequenceStart p.anchor tag) .looseEntry
      else if block && kind = .blockSequenceStart then
        return start (.sequenceStart p.anchor tag) (.blockEntry true)
      else if block && kind = .blockMappingStart then
        return start (.mappingStart p.anchor tag) (.blockKey true)
      else if p.anchor.isSome || tag.isSome then
        return (⟨.scalar p.anchor tag "" .plain, p.first⟩, s.back)
      else
        .error ⟨.noNodeContent, t.first, some (if block then .blockNode else .flowNode, p.first)⟩

/-- What the handles stand for without directives. -/
def standardHandles : List (String × String) := [("!", "!"), ("!!", "tag:yaml.org,2002:")]

/-- The handles of the directives, and the standard ones that they leave. -/
def withStandard (handles : List (String × String)) : List (String × String) :=
  handles ++ standardHandles.filter fun h => !handles.any (·.1 = h.1)

/-- Takes the directives in front of a document, at most `fuel`. -/
def directives : Nat → Bool → EventState → Except SyntaxError EventState
  | 0, _, s => .ok s
  | fuel + 1, versionSeen, s => do
    let t ← s.peek
    match t.kind with
    | .version major minor =>
      if versionSeen then .error ⟨.duplicateVersion, t.first, none⟩
      else if major ≠ 1 || (minor ≠ 1 && minor ≠ 2) then .error ⟨.foreignVersion, t.first, none⟩
      else directives fuel true s.drop
    | .tagDirective handle front =>
      if s.handles.any (·.1 = handle) then .error ⟨.duplicateTagHandle, t.first, none⟩
      else directives fuel versionSeen { s.drop with handles := s.handles ++ [(handle, front)] }
    | _ => return { s with handles := withStandard s.handles }

/-- Skips marks of a document's end. -/
def skipEnds : Nat → EventState → EventState
  | 0, s => s
  | fuel + 1, s =>
    match s.tokens with
    | t :: _ => if t.kind = .documentEnd then skipEnds fuel s.drop else s
    | [] => s

/-- The start of a document, or the end of the stream.  Only the first document may begin
    without a mark. -/
def documentStart (implicit : Bool) (s : EventState) : Step := do
  let s := if implicit then s else skipEnds s.tokens.length s
  let t ← s.peek
  let marked := match t.kind with
    | .version .. | .tagDirective .. | .documentStart => true
    | _ => false
  if t.kind = .streamEnd then
    return (⟨.streamEnd, t.first⟩, { s.drop with expect := .nothing })
  else if implicit && !marked then
    return (⟨.documentStart, t.first⟩,
      { s.andThen .documentEnd with expect := .blockNode, handles := withStandard [] })
  else
    let s ← directives s.tokens.length false { s with handles := [] }
    let u ← s.peek
    if u.kind = .documentStart then
      return (⟨.documentStart, t.first⟩, { s.drop.andThen .documentEnd with expect := .documentContent })
    else .error ⟨.noDocumentStart, u.first, none⟩

/-- An entry of a block sequence, or its end. -/
def blockEntry (s : EventState) : Step := do
  let t ← s.peek
  match t.kind with
  | .blockEntry =>
    let s := s.drop
    let u ← s.peek
    if u.kind = .blockEntry || u.kind = .blockEnd then
      return emptyScalar { s with expect := .blockEntry false } t.last
    else node true false (s.andThen (.blockEntry false))
  | .blockEnd => return s.close .sequenceEnd t
  | _ => .error (s.broken .blockCollection .noDash t)

/-- An entry of a block sequence without indentation of its own, or its end. -/
def looseEntry (s : EventState) : Step := do
  let t ← s.peek
  match t.kind with
  | .blockEntry =>
    let s := s.drop
    let u ← s.peek
    if u.kind = .blockEntry || u.kind = .key || u.kind = .value || u.kind = .blockEnd then
      return emptyScalar { s with expect := .looseEntry } t.last
    else node true false (s.andThen .looseEntry)
  | _ => return (⟨.sequenceEnd, t.first⟩, s.back)

/-- Whether a block mapping goes on without a node. -/
def endsBlockNode (k : TokenKind) : Bool := k = .key || k = .value || k = .blockEnd

/-- A key of a block mapping, or its end. -/
def blockKey (s : EventState) : Step := do
  let t ← s.peek
  match t.kind with
  | .key =>
    let s := s.drop
    let u ← s.peek
    if endsBlockNode u.kind then return emptyScalar { s with expect := .blockValue } t.last
    else node true true (s.andThen .blockValue)
  | .blockEnd => return s.close .mappingEnd t
  | _ => .error (s.broken .blockMapping .noKey t)

/-- A value of a block mapping. -/
def blockValue (s : EventState) : Step := do
  let t ← s.peek
  match t.kind with
  | .value =>
    let s := s.drop
    let u ← s.peek
    if endsBlockNode u.kind then return emptyScalar { s with expect := .blockKey false } t.last
    else node true true (s.andThen (.blockKey false))
  | _ => return emptyScalar { s with expect := .blockKey false } t.first

/-- Takes the comma in front of any but the first entry of a flow collection. -/
def comma (s : EventState) (first : Bool) (a : Activity) (p : Problem) :
    Except SyntaxError EventState := do
  if first then return s
  let t ← s.peek
  if t.kind = .flowEntry then return s.drop else .error (s.broken a p t)

/-- An entry of a flow sequence, or its end.  A key begins a mapping of one pair. -/
def flowEntry (first : Bool) (s : EventState) : Step := do
  let t ← s.peek
  if t.kind = .flowSequenceEnd then return s.close .sequenceEnd t
  let s ← s.comma first .flowSequence .noCommaOrBracket
  let t ← s.peek
  match t.kind with
  | .key => return (⟨.mappingStart none none, t.first⟩, { s.drop with expect := .pairKey })
  | .flowSequenceEnd => return s.close .sequenceEnd t
  | _ => node false false (s.andThen (.flowEntry false))

/-- The key of a pair in a flow sequence. -/
def pairKey (s : EventState) : Step := do
  let t ← s.peek
  if t.kind = .value || t.kind = .flowEntry || t.kind = .flowSequenceEnd then
    return emptyScalar { s.drop with expect := .pairValue } t.last
  else node false false (s.andThen .pairValue)

/-- The value of a pair in a flow sequence. -/
def pairValue (s : EventState) : Step := do
  let t ← s.peek
  if t.kind = .value then
    let s := s.drop
    let u ← s.peek
    if u.kind = .flowEntry || u.kind = .flowSequenceEnd then
      return emptyScalar { s with expect := .pairEnd } u.first
    else node false false (s.andThen .pairEnd)
  else return emptyScalar { s with expect := .pairEnd } t.first

/-- A key of a flow mapping, or its end.  A node without `:` is a key without value. -/
def flowKey (first : Bool) (s : EventState) : Step := do
  let t ← s.peek
  if t.kind = .flowMappingEnd then return s.close .mappingEnd t
  let s ← s.comma first .flowMapping .noCommaOrBrace
  let t ← s.peek
  match t.kind with
  | .key =>
    let s := s.drop
    let u ← s.peek
    if u.kind = .value || u.kind = .flowEntry || u.kind = .flowMappingEnd then
      return emptyScalar { s with expect := .flowValue false } u.first
    else node false false (s.andThen (.flowValue false))
  | .flowMappingEnd => return s.close .mappingEnd t
  | _ => node false false (s.andThen (.flowValue true))

/-- The value of a flow mapping. -/
def flowValue (empty : Bool) (s : EventState) : Step := do
  let t ← s.peek
  if empty || t.kind ≠ .value then
    return emptyScalar { s with expect := .flowKey false } t.first
  else
    let s := s.drop
    let u ← s.peek
    if u.kind = .flowEntry || u.kind = .flowMappingEnd then
      return emptyScalar { s with expect := .flowKey false } u.first
    else node false false (s.andThen (.flowKey false))

/-- The content of a document that began with a mark. -/
def documentContent (s : EventState) : Step := do
  let t ← s.peek
  match t.kind with
  | .version .. | .tagDirective .. | .documentStart | .documentEnd | .streamEnd =>
    return emptyScalar s.back t.first
  | _ => node true false s

/-- The end of a document, with or without its mark. -/
def documentEnd (s : EventState) : Step := do
  let t ← s.peek
  let s := { (if t.kind = .documentEnd then s.drop else s) with
    expect := .documentStart false, handles := [] }
  return (⟨.documentEnd, t.first⟩, s)

/-- Takes the first token of a collection, whose place is remembered. -/
def enter (s : EventState) (first : Bool) : Except SyntaxError EventState := do
  if first then
    let t ← s.peek
    return { s.drop with opened := t.first :: s.opened }
  else return s

/-- The next event. -/
def step (s : EventState) : Step :=
  match s.expect with
  | .streamStart => do
    let t ← s.peek
    return (⟨.streamStart, t.first⟩, { s.drop with expect := .documentStart true })
  | .documentStart implicit => documentStart implicit s
  | .documentContent => documentContent s
  | .documentEnd => documentEnd s
  | .blockNode => node true false s
  | .blockEntry first => do blockEntry (← s.enter first)
  | .looseEntry => looseEntry s
  | .blockKey first => do blockKey (← s.enter first)
  | .blockValue => blockValue s
  | .flowEntry first => do flowEntry first (← s.enter first)
  | .pairKey => pairKey s
  | .pairValue => pairValue s
  | .pairEnd => do
    let t ← s.peek
    return (⟨.mappingEnd, t.first⟩, { s with expect := .flowEntry false })
  | .flowKey first => do flowKey first (← s.enter first)
  | .flowValue empty => flowValue empty s
  | .nothing => .error s.failure

end EventState

/-- The events of the first document of a stream. -/
structure Stream where
  events : List (Event String) := []
  /-- what cut the events off -/
  failure : Option SyntaxError := none
  /-- the stream has no document at all; the place of its end -/
  ended : Option Mark := none
  /-- something comes after the document -/
  more : Bool := false

namespace Stream

/-- Whether the stream ends here. -/
def endsHere (s : EventState) : Bool :=
  match s.step with
  | .ok (e, _) => e.kind = .streamEnd
  | .error _ => false

/-- Collects the events of the first document. -/
def collect : Nat → EventState → Stream
  | 0, s => { failure := some s.failure }
  | fuel + 1, s =>
    match s.step with
    | .error e => { failure := some e }
    | .ok (e, s) =>
      match e.kind with
      | .streamStart | .documentStart => collect fuel s
      | .streamEnd => { ended := some e.mark }
      | .documentEnd => { more := !endsHere s }
      | _ =>
        let rest := collect fuel s
        { rest with events := e :: rest.events }

/-- The error of a token list without an end, which no text has. -/
def noEnd : SyntaxError := ⟨.endInQuotes, Mark.start, none⟩

/-- The events of the first document of a token list, and the error that stopped it. -/
def ofTokens (ts : List Token) (failure : Option SyntaxError) : Stream :=
  collect (4 * ts.length + 16) { tokens := ts, failure := failure.getD noEnd }

end Stream

end LoadSwarm.Yaml
