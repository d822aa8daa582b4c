/-
  Values that are kept before it is known what they are for.

  * `Content`: a value of any shape.
  * `readContent`: reads one; a tag of the document's own has no place in it.
  * `readTagged`: reads a mapping that names its variant under a given key, or a
    list that begins with the name; the rest is content.
-/
import LoadSwarm.Yaml.Reader

namespace LoadSwarm.Yaml

/-- A value of any shape. -/
inductive Content where
  | scalar (m : Meaning)
  | list (items : List Content)
  | members (entries : List (Content × Content))

/-- What a value is found to be. -/
def Content.found : Content → Found
  | scalar m => .scalar m
  | list _ => .sequence
  | members _ => .mapping

open Reading

/-- The value of a scalar; whole numbers beyond 64 bits have none. -/
def Content.ofMeaning (expected : String) (m : Meaning) : Except Mismatch Content :=
  match m with
  | .wide s n => .error (.wrongType (.scalar (.wide s n)) expected)
  | m => .ok (.scalar m)

/-- Reads pairs with two readers. -/
def readPairs {α β : Type} (readKey : Place → Node → Reading α)
    (readMember : α → Place → Node → Reading β) (at_ : Place) :
    List (Node × Node) → Reading (List β)
  | [] => pure []
  | (k, v) :: rest => do
    let a ← readKey at_ k
    let b ← readMember a (at_.member k) v
    return b :: (← readPairs readKey readMember at_ rest)

/-- Reads a value of any shape.  `fuel` bounds the collections and aliases inside each other;
    the depth of the place runs out first. -/
def readContentWith (expected : String) : Nat → Place → Node → Reading Content
  | 0, _, n => fail (.tooDeep n.mark)
  | fuel + 1, at_, n => do
    let n ← follow at_ n
    located n.mark at_.path <|
      match n with
      | .scalar _ tag text style =>
        if (ownTag? tag).isSome then mismatch .taggedContent
        else do
          let m ← ofExcept (Meaning.ofScalar tag text style)
          ofExcept (Content.ofMeaning expected m)
      | .sequence mark tag items =>
        if (ownTag? tag).isSome then mismatch .taggedContent
        else do
          let inside ← enter at_ mark
          return .list (← readItems (readContentWith "any value" fuel) inside 0 items)
      | .mapping mark tag members =>
        if (ownTag? tag).isSome then mismatch .taggedContent
        else do
          let inside ← enter at_ mark
          let read := readContentWith "any value" fuel
          return .members (← readPairs read (fun k p v => do return (k, ← read p v)) inside
            (Node.pairs members))
      | n => wrongNode at_ expected n

/-- Collections inside each other, each behind an alias. -/
def contentFuel : Nat := 300

/-- Reads a value of any shape. -/
def readContent (at_ : Place) (n : Node) : Reading Content :=
  readContentWith "any value" contentFuel at_ n

/-- Reads a key beside the one that names the variant. -/
def readTagKey (tagName : String) (at_ : Place) (n : Node) : Reading Content :=
  readContentWith ("a type tag \x60" ++ tagName ++ "\x60 or any other value") contentFuel at_ n

/-- Reads the members of a mapping with a variant under the key `tagName`. -/
def readTaggedMembers {α : Type} (tagName : String) (readTag : Place → Node → Reading α) (at_ : Place) :
    Option α → List (Content × Content) → List (Node × Node) → Reading (α × Content)
  | none, _, [] => mismatch (.missingField tagName)
  | some tag, seen, [] => pure (tag, .members seen)
  | tag, seen, (k, v) :: rest => do
    let key ← readTagKey tagName at_ k
    let isTag := match key with
      | .scalar (.text s) => s == tagName
      | _ => false
    if isTag then
      if tag.isSome then mismatch (.duplicateField tagName)
      else
        let a ← readTag (at_.member k) v
        readTaggedMembers tagName readTag at_ (some a) seen rest
    else
      let value ← readContent (at_.member k) v
      readTaggedMembers tagName readTag at_ tag (seen ++ [(key, value)]) rest

/-- Reads a variant and the content beside it. -/
def readTagged {α : Type} (expected tagName : String) (readTag : Place → Node → Reading α) (at_ : Place)
    (n : Node) : Reading (α × Content) := do
  let n ← follow at_ n
  located n.mark at_.path <|
    match n with
    | .scalar mark tag text style =>
      if (ownTag? tag).isSome then mismatch (.wrongType .tagged expected)
      else wrongNode at_ expected (.scalar mark tag text style)
    | .sequence mark tag items =>
      if (ownTag? tag).isSome then mismatch (.wrongType .tagged expected)
      else do
        let inside ← enter at_ mark
        match items with
        | [] => mismatch (.missingField tagName)
        | first :: rest =>
          let a ← readTag (inside.item 0) first
          return (a, .list (← readItems readContent inside 1 rest))
    | .mapping mark tag members =>
      if (ownTag? tag).isSome then mismatch (.wrongType .tagged expected)
      else do
        let inside ← enter at_ mark
        readTaggedMembers tagName readTag inside none [] (Node.pairs members)
    | n => wrongNode at_ expected n

/-- The number that a value is. -/
def Content.float : Content → Except Mismatch Binary64
  | scalar (.natural n) => .ok (Binary64.ofNat n)
  | scalar (.negative n) => .ok (Binary64.ofFraction (n ≠ 0) n 1)
  | scalar (.float x) => .ok x
  | c => .error (.wrongType c.found "f64")

/-- Which of some fields a key names: by its text, or by its number. -/
def Content.field? (names : List String) : Content → Except Mismatch (Option Nat)
  | scalar (.text s) => .ok (names.idxOf? s)
  | scalar (.natural n) => .ok (if n < names.length then some n else none)
  | c => .error (.wrongType c.found "field identifier")

/-- The numbers of some fields; `found` are those that were set. -/
def Content.floatMembers (names : List String) :
    List (Option Binary64) → List (Content × Content) → Except Mismatch (List Binary64)
  | found, [] =>
    (names.zip found).mapM fun (name, x?) =>
      match x? with
      | some x => .ok x
      | none => .error (.missingField name)
  | found, (k, v) :: rest => do
    match ← k.field? names with
    | none => floatMembers names found rest
    | some i =>
      if (found[i]?.join).isSome then .error (.duplicateField (names.getD i ""))
      else
        let x ← v.float
        floatMembers names (found.set i (some x)) rest

/-- The wording of a number of things. -/
def countText (n : Nat) (thing : String) : String :=
  toString n ++ " " ++ thing ++ (if n = 1 then "" else "s")

/-- The numbers of a list of known length. -/
def Content.floatItems (variant : String) (count : Nat) (items : List Content) :
    Except Mismatch (List Binary64) := do
  let xs ← (items.take count).mapM Content.float
  if xs.length < count then
    .error (.wrongLength xs.length
      ("struct variant " ++ variant ++ " with " ++ countText count "element"))
  else if count < items.length then
    .error (.wrongLength items.length (countText count "element" ++ " in sequence"))
  else .ok xs

/-- The numbers of a variant, given by name or in order. -/
def Content.floats (variant : String) (names : List String) :
    Content → Except Mismatch (List Binary64)
  | members entries => floatMembers names (names.map fun _ => none) entries
  | list items => floatItems variant names.length items
  | c => .error (.wrongType c.found ("struct variant " ++ variant))

/-- A variant without fields has any members, but no items. -/
def Content.empty : Content → Except Mismatch Unit
  | list items =>
    if items.isEmpty then .ok ()
    else .error (.wrongLength items.length (countText 0 "element" ++ " in sequence"))
  | _ => .ok ()

end LoadSwarm.Yaml
