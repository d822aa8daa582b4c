/-
  Documents as trees of nodes.

  * `Node`: a scalar, a collection, an alias of an anchored node, or the place
    where an error cut the text off.
  * `Document`: the root, the anchored nodes, and the error that cut it off.
  * `Document.ofText`: an anchor takes the number of names known before it, and of
    two anchors with one number the one that begins later holds it.
-/
import LoadSwarm.Yaml.Event
import LoadSwarm.Yaml.Lexer

namespace LoadSwarm.Yaml

/-- A node of a document. -/
inductive Node where
  | scalar (mark : Mark) (tag : Option String) (text : String) (style : ScalarStyle)
  | sequence (mark : Mark) (tag : Option String) (items : List Node)
  /-- keys and values in turn -/
  | mapping (mark : Mark) (tag : Option String) (members : List Node)
  | aliasTo (mark : Mark) (anchor : Nat)
  /-- the text is cut off here -/
  | cut

/-- Keys with their values; a key without one has the end of the text. -/
def Node.pairs : List Node → List (Node × Node)
  | k :: v :: rest => (k, v) :: pairs rest
  | [k] => [(k, .cut)]
  | [] => []

mutual

/-- Whether the text is cut off inside a node. -/
def Node.isCut : Node → Bool
  | .cut => true
  | .sequence _ _ items => anyCut items
  | .mapping _ _ members => anyCut members
  | _ => false

/-- Whether the text is cut off inside one of some nodes. -/
def Node.anyCut : List Node → Bool
  | [] => false
  | n :: ns => n.isCut || anyCut ns

end

/-- Why the nodes of a document end early. -/
inductive CutReason where
  | badSyntax (e : SyntaxError)
  | unknownAnchor (mark : Mark)
  deriving DecidableEq, Repr

/-- The first document of a text. -/
structure Document where
  /-- nothing if the text is empty -/
  root : Option Node
  /-- the anchored nodes with their numbers; of equal numbers the last one holds -/
  anchored : List (Nat × Node) := []
  /-- the number of events that it was made of -/
  size : Nat
  reason : Option CutReason := none
  /-- something comes after the document -/
  more : Bool := false

/-! ## Anchors by number -/

/-- The names of the anchors so far with their numbers. -/
abbrev AnchorNames := List (String × Nat)

/-- Gives a name the next number. -/
def AnchorNames.add (names : AnchorNames) (name : String) : AnchorNames :=
  (name, names.length) :: names.filter (·.1 ≠ name)

/-- The number and the names after an anchor, if there is one. -/
def AnchorNames.addAnchor (names : AnchorNames) (anchor : Option String) :
    Option Nat × AnchorNames :=
  match anchor with
  | some a => (some names.length, names.add a)
  | none => (none, names)

/-- Replaces the names of anchors by numbers, up to an alias of an unknown one. -/
def link (names : AnchorNames) : List (Event String) → List (Event Nat) × Option CutReason
  | [] => ([], none)
  | e :: es =>
    let next := fun (kind : EventKind Nat) (names : AnchorNames) =>
      let (rest, reason) := link names es
      (⟨kind, e.mark⟩ :: rest, reason)
    match e.kind with
    | .aliasTo name =>
      match names.find? (·.1 = name) with
      | some (_, n) => next (.aliasTo n) names
      | none => ([], some (.unknownAnchor e.mark))
    | .scalar anchor tag text style =>
      let (n, names) := names.addAnchor anchor
      next (.scalar n tag text style) names
    | .sequenceStart anchor tag =>
      let (n, names) := names.addAnchor anchor
      next (.sequenceStart n tag) names
    | .mappingStart anchor tag =>
      let (n, names) := names.addAnchor anchor
      next (.mappingStart n tag) names
    | .sequenceEnd => next .sequenceEnd names
    | .mappingEnd => next .mappingEnd names
    | .streamStart => next .streamStart names
    | .streamEnd => next .streamEnd names
    | .documentStart => next .documentStart names
    | .documentEnd => next .documentEnd names

/-! ## Trees -/

/-- A collection whose end has not been seen. -/
structure OpenNode where
  /-- the collection with given members -/
  build : List Node → Node
  anchor : Option Nat
  /-- the members so far -/
  members : List Node := []
  /-- the anchored nodes among them -/
  anchored : List (Nat × Node) := []

/-- With one more member. -/
def OpenNode.add (o : OpenNode) (n : Node) (anchored : List (Nat × Node)) : OpenNode :=
  { o with members := o.members ++ [n], anchored := o.anchored ++ anchored }

/-- A finished collection with its anchored nodes, itself first. -/
def OpenNode.finish (o : OpenNode) : Node × List (Nat × Node) :=
  let n := o.build o.members
  (n, (o.anchor.map fun a => (a, n)).toList ++ o.anchored)

/-- Open collections, the innermost first, and the root once it is finished. -/
structure TreeState where
  stack : List OpenNode := []
  root : Option (Node × List (Nat × Node)) := none

namespace TreeState

/-- With one more finished node. -/
def add (s : TreeState) (n : Node) (anchored : List (Nat × Node)) : TreeState :=
  match s.stack with
  | [] => { s with root := some (s.root.getD (n, anchored)) }
  | o :: rest => { s with stack := o.add n anchored :: rest }

/-- With the innermost collection finished. -/
def close (s : TreeState) : TreeState :=
  match s.stack with
  | [] => s
  | o :: rest =>
    let (n, anchored) := o.finish
    { s with stack := rest }.add n anchored

/-- After one event. -/
def step (s : TreeState) (e : Event Nat) : TreeState :=
  match e.kind with
  | .aliasTo n => s.add (.aliasTo e.mark n) []
  | .scalar anchor tag text style =>
    let n := Node.scalar e.mark tag text style
    s.add n (anchor.map fun a => (a, n)).toList
  | .sequenceStart anchor tag =>
    { s with stack := { build := .sequence e.mark tag, anchor := anchor } :: s.stack }
  | .mappingStart anchor tag =>
    { s with stack := { build := .mapping e.mark tag, anchor := anchor } :: s.stack }
  | .sequenceEnd | .mappingEnd => s.close
  | _ => s

/-- Finishes `fuel` open collections. -/
def closeAll : Nat → TreeState → TreeState
  | 0, s => s
  | fuel + 1, s => closeAll fuel s.close

/-- The root and the anchored nodes; what is open ends where the text is cut off. -/
def result (s : TreeState) : Node × List (Nat × Node) :=
  match s.root with
  | some r => r
  | none =>
    let s := s.add .cut []
    (closeAll s.stack.length s).root.getD (.cut, [])

end TreeState

/-- The first document of the characters of a text. -/
def Document.ofChars (cs : List Char) : Document :=
  let (ts, failure) := tokens cs
  let stream := Stream.ofTokens ts failure
  match stream.ended with
  | some _ => { root := none, size := 1 }
  | none =>
    let (events, unknown) := link [] stream.events
    let (root, anchored) := (events.foldl TreeState.step {}).result
    { root := some root
      anchored := anchored
      size := events.length
      reason := unknown.or (stream.failure.map .badSyntax)
      more := stream.more }

/-- The first document of a text. -/
def Document.ofText (text : String) : Document := ofChars text.toList

end LoadSwarm.Yaml
