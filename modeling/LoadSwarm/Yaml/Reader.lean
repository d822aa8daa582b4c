/-
  Reading values out of a document.

  * `YamlError`: why a document could not be read, with the place and path of a
    value that does not fit.
  * `Reading`: a computation that counts the aliases it follows and may fail.
  * `readWord`, `readNatural`, `readFloat`, `readBool`, `readOption`, `readList`:
    values of one kind.
  * `readRecord`: a mapping with known keys; unknown ones are passed over.
  * `Document.read`: a whole document; an error of its syntax comes up when the
    reading reaches it, at the latest after the last value.
-/
import LoadSwarm.Yaml.Node
import LoadSwarm.Yaml.Scalar

namespace LoadSwarm.Yaml

/-! ## Paths and errors -/

/-- The way from the root to a value. -/
inductive Path where
  | root
  | item (parent : Path) (index : Nat)
  | key (parent : Path) (name : String)
  /-- a key that is not a scalar -/
  | unnamed (parent : Path)
  deriving DecidableEq, Repr

namespace Path

/-- The text of a path. -/
def text : Path → String
  | root => "."
  | item p i => p.text ++ "[" ++ toString i ++ "]"
  | key root name => name
  | key p name => p.text ++ "." ++ name
  | unnamed root => "?"
  | unnamed p => p.text ++ ".?"

end Path

/-- Why a document could not be read. -/
inductive YamlError where
  | mismatch (m : Mismatch) (where_ : Option (Mark × Path))
  | badSyntax (e : SyntaxError)
  | unknownAnchor (mark : Mark)
  | tooDeep (mark : Mark)
  | tooManyAliases
  | moreDocuments
  | noValue
  deriving DecidableEq

/-- The wording of the reason. -/
def YamlError.message : YamlError → String
  | mismatch m none => m.message
  | mismatch m (some (mark, path)) =>
    (if path.text = "." then "" else path.text ++ ": ") ++ m.message ++ mark.suffix
  | badSyntax e => e.message
  | unknownAnchor mark => "unknown anchor" ++ mark.suffix
  | tooDeep mark => "recursion limit exceeded" ++ mark.suffix
  | tooManyAliases => "repetition limit exceeded"
  | moreDocuments => "deserializing from YAML containing more than one document is not supported"
  | noValue => "EOF while parsing a value"

/-- A computation that counts the aliases it follows. -/
abbrev Reading (α : Type) := StateT Nat (Except YamlError) α

/-- Where a node stands. -/
structure Place where
  document : Document
  path : Path := .root
  /-- how many collections may still be entered -/
  depth : Nat := 128

namespace Place

/-- The place of an item of a list. -/
def item (at_ : Place) (i : Nat) : Place := { at_ with path := .item at_.path i }

/-- The place of the value of a key. -/
def member (at_ : Place) (k : Node) : Place :=
  match k with
  | .scalar _ _ text _ => { at_ with path := .key at_.path text }
  | _ => { at_ with path := .unnamed at_.path }

/-- The error at a place where the document is cut off. -/
def cutError (at_ : Place) : YamlError :=
  match at_.document.reason with
  | some (.badSyntax e) => .badSyntax e
  | some (.unknownAnchor mark) => .unknownAnchor mark
  | none => .noValue

end Place

namespace Reading

/-- Fails. -/
def fail {α : Type} (e : YamlError) : Reading α := fun _ => .error e

/-- Fails with a mismatch whose place is to be filled in. -/
def mismatch {α : Type} (m : Mismatch) : Reading α := fail (.mismatch m none)

/-- A result that may not fit. -/
def ofExcept {α : Type} (r : Except Mismatch α) : Reading α :=
  match r with
  | .ok a => pure a
  | .error m => mismatch m

/-- Fills in the place of a mismatch that has none. -/
def located {α : Type} (mark : Mark) (path : Path) (r : Reading α) : Reading α := fun n =>
  match r n with
  | .error (.mismatch m none) => .error (.mismatch m (some (mark, path)))
  | result => result

/-- Follows one alias; at most a hundred times the number of events may be followed. -/
def followOne (at_ : Place) (anchor : Nat) : Reading Node := fun n =>
  if at_.document.size * 100 < n + 1 then .error .tooManyAliases
  else
    match at_.document.anchored.reverse.find? (·.1 = anchor) with
    | some (_, node) => .ok (node, n + 1)
    | none => .error .noValue

/-- The node itself, or the one that an alias stands for. -/
def follow (at_ : Place) : Node → Reading Node
  | .aliasTo _ anchor => followOne at_ anchor
  | .cut => fail at_.cutError
  | n => pure n

end Reading

open Reading

/-! ## Single values -/

/-- Fails because a node is of another kind. -/
def wrongNode {α : Type} (at_ : Place) (expected : String) : Node → Reading α
  | .scalar _ tag text style => do
    let m ← ofExcept (Meaning.ofScalar tag text style)
    mismatch (.wrongType (.scalar m) expected)
  | .sequence .. => mismatch (.wrongType .sequence expected)
  | .mapping .. => mismatch (.wrongType .mapping expected)
  | .aliasTo .. => fail .noValue
  | .cut => fail at_.cutError

/-- The place where a node begins. -/
def Node.mark : Node → Mark
  | .scalar mark .. => mark
  | .sequence mark .. => mark
  | .mapping mark .. => mark
  | .aliasTo mark _ => mark
  | .cut => Mark.start

/-- A scalar that may be read as a value of a core type: a plain one, or a literal one with
    the tag of the type. -/
def isValueScalar (core : CoreTag) (tag : Option String) (style : ScalarStyle) : Bool :=
  style = .plain || (style = .literal && tag = some core.text)

/-- Reads a scalar whose text is judged by `check`. -/
def readWord {α : Type} (expected : String) (check : String → Except Mismatch α) (at_ : Place)
    (n : Node) : Reading α := do
  let n ← follow at_ n
  located n.mark at_.path <|
    match n with
    | .scalar _ _ text _ => ofExcept (check text)
    | n => wrongNode at_ expected n

/-- Reads a text: any scalar is one. -/
def readText : Place → Node → Reading String := readWord "a string" .ok

/-- Reads a scalar that is a value of a core type. -/
def readValue {α : Type} (core : CoreTag) (expected : String)
    (value : String → Option (Except Mismatch α)) (at_ : Place) (n : Node) : Reading α := do
  let n ← follow at_ n
  located n.mark at_.path <|
    match n with
    | .scalar mark tag text style =>
      match (if isValueScalar core tag style then value text else none) with
      | some result => ofExcept result
      | none => wrongNode at_ expected (.scalar mark tag text style)
    | n => wrongNode at_ expected n

/-- Reads a natural number up to `limit`, which is below 2⁶⁴; `expected` names its type. -/
def readNatural (expected : String) (limit : Nat) : Place → Node → Reading Nat :=
  readValue .int expected fun s =>
    (natural? Unsigned.max64 s.toList).map fun n =>
      if n ≤ limit then .ok n else .error (.wrongValue (.scalar (.natural n)) expected)

/-- Reads a floating point number. -/
def readFloat : Place → Node → Reading Binary64 :=
  readValue .float "f64" fun s => (float? s).map .ok

/-- Reads a truth value. -/
def readBool : Place → Node → Reading Bool :=
  readValue .bool "a boolean" fun s => (boolWord? s).map .ok

/-- Whether a scalar stands for nothing. -/
def isNothing (tag : Option String) (text : String) (style : ScalarStyle) : Except Mismatch Bool :=
  if style ≠ .plain then .ok false
  else
    match tag with
    | some t =>
      if t = CoreTag.null.text then
        if isNullWord text then .ok true
        else .error (.wrongValue (.scalar (.text text)) "null")
      else .ok false
    | none => .ok (text = "" || isNullWord text)

/-- Reads a value that may be missing. -/
def readOption {α : Type} (read : Place → Node → Reading α) (at_ : Place) (n : Node) :
    Reading (Option α) := do
  let n ← follow at_ n
  match n with
  | .scalar _ tag text style =>
    if ← ofExcept (isNothing tag text style) then return none
    else return some (← read at_ n)
  | n => return some (← read at_ n)

/-! ## Collections -/

/-- The place inside a collection, if one more may be entered. -/
def enter (at_ : Place) (mark : Mark) : Reading Place :=
  match at_.depth with
  | 0 => fail (.tooDeep mark)
  | d + 1 => pure { at_ with depth := d }

/-- Reads the items of a list, the first of which has the given index. -/
def readItems {α : Type} (read : Place → Node → Reading α) (at_ : Place) :
    Nat → List Node → Reading (List α)
  | _, [] => pure []
  | i, n :: ns =>
    match n with
    | .cut => fail at_.cutError
    | n => do
      let a ← read (at_.item i) n
      return a :: (← readItems read at_ (i + 1) ns)

/-- Whether a scalar is plain and empty. -/
def isEmptyPlain : Node → Bool
  | .scalar _ _ text style => text = "" && style = .plain
  | _ => false

/-- Reads a list; an empty plain scalar is an empty one. -/
def readList {α : Type} (read : Place → Node → Reading α) (at_ : Place) (n : Node) :
    Reading (List α) := do
  let n ← follow at_ n
  located n.mark at_.path <|
    match n with
    | .sequence mark _ items => do
      let inside ← enter at_ mark
      readItems read inside 0 items
    | n => if isEmptyPlain n then pure [] else wrongNode at_ "a sequence" n

/-- Passes over a value. -/
def readNothing (at_ : Place) (n : Node) : Reading Unit :=
  if n.isCut then fail at_.cutError else pure ()

/-- A key of a record: its name, and how its value changes the record. -/
structure RecordField (σ : Type) where
  name : String
  read : σ → Place → Node → Reading σ

/-- Reads the members of a record in turn; `seen` are the keys that were set. -/
def readMembers {σ : Type} (fields : List (RecordField σ)) (at_ : Place) :
    List String → σ → List (Node × Node) → Reading σ
  | _, record, [] => pure record
  | seen, record, (k, v) :: rest => do
    let name ← readWord "field identifier" .ok at_ k
    match fields.find? (·.name = name) with
    | some f =>
      if name ∈ seen then mismatch (.duplicateField name)
      else
        let record ← f.read record (at_.member k) v
        readMembers fields at_ (name :: seen) record rest
    | none =>
      readNothing at_ v
      readMembers fields at_ seen record rest

/-- Reads a record from a mapping.  Keys that are missing keep the value of `record`, and an
    empty plain scalar is a mapping without keys. -/
def readRecord {σ : Type} (expected : String) (fields : List (RecordField σ)) (record : σ) (at_ : Place)
    (n : Node) : Reading σ := do
  let n ← follow at_ n
  located n.mark at_.path <|
    match n with
    | .mapping mark _ members => do
      let inside ← enter at_ mark
      readMembers fields inside [] record (Node.pairs members)
    | n => if isEmptyPlain n then pure record else wrongNode at_ expected n

/-- The field of a record that is set to a value. -/
def RecordField.set {σ α : Type} (name : String) (read : Place → Node → Reading α)
    (set : σ → α → σ) : RecordField σ :=
  ⟨name, fun record at_ n => do return set record (← read at_ n)⟩

/-- Reads a whole document; without any it is `empty`. -/
def Document.read {α : Type} (d : Document) (read : Place → Node → Reading α) (empty : α) :
    Except YamlError α := do
  let a ← match d.root with
    | none => pure empty
    | some root => (·.1) <$> read { document := d } root 0
  match d.reason with
  | some (.badSyntax e) => .error (.badSyntax e)
  | some (.unknownAnchor mark) => .error (.unknownAnchor mark)
  | none => if d.more then .error .moreDocuments else .ok a

end LoadSwarm.Yaml
