/-
  The identifiers that users choose from.

  * `Identifiers`: in order; one that occurs twice is chosen twice as often.
  * `Identifiers.choose`: the identifier at the index that a source draws.  From
    nothing there is no choice, and the source is not asked.
  * `Identifiers.path`: the path of an identifier, which is put in unchanged.
-/
import LoadSwarm.Config.Basic
import LoadSwarm.Random.IndexSource

namespace LoadSwarm

/-- Why a user cannot go on. -/
inductive UserError where
  | nothingToChoose
  | indexOutOfRange (index size : Nat)
  deriving DecidableEq, Repr

/-- The wording of the reason. -/
def UserError.message : UserError → String
  | nothingToChoose => "cannot choose a cluster identifier from an empty set"
  | indexOutOfRange index size =>
    "index source returned " ++ toString index ++ " for a set of " ++ toString size ++
      " identifiers"

/-- What comes of a choice. -/
inductive Choice where
  | chosen (id : String)
  | failed (e : UserError)
  /-- the index source itself broke down -/
  | crashed (message : String)
  deriving DecidableEq, Repr

/-- The identifiers that can be chosen. -/
structure Identifiers where
  toList : List String
  deriving DecidableEq, Repr

namespace Identifiers

/-- The identifiers that are built in. -/
def builtIn : Identifiers :=
  ⟨["4a09785674d14344d92b1212b6e810369535ea1c",
    "dcfc37347dd5794515d7bb08ffcbca654f47d744",
    "dbf5013b65b95c339ecd6563acd4b8016cd0d80f",
    "486818732c691850ddcd5b241ca23319454fe575",
    "4bb7275205086e01c4bdef60113abd1c6c07b666",
    "d16bf0750fcda12088c406510f2d2f6c50d4097c",
    "f4468b46760db96b07658c71338db961fb6de72f",
    "6bfb0a0bfd71b41f71bd956b5e6af76c8ad5cd2b",
    "4a7fb852bb3f120e676f906c7e208e43f6dc1003",
    "ef4d97771d424720fb370d0e82f4537efb72c47a",
    "b8186e0e1806966514ea8d45b3eb3e7681bdf974",
    "c544b2178af4a4428cd1e12ca26d6428e3d24276"]⟩

/-- The identifiers of a target, the built-in ones if it has none of its own. -/
def ofTarget (t : Target) : Identifiers :=
  match t.identifiers with
  | some ids => ⟨ids⟩
  | none => builtIn

/-- How many there are. -/
def size (ids : Identifiers) : Nat := ids.toList.length

/-- Whether there are none. -/
def isEmpty (ids : Identifiers) : Bool := ids.toList.isEmpty

/-- Whether an identifier is among them. -/
def contains (ids : Identifiers) (id : String) : Bool := ids.toList.contains id

/-- The identifier at an index. -/
def at_ (ids : Identifiers) (index : Nat) : Choice :=
  match ids.toList[index]? with
  | some id => .chosen id
  | none => .failed (.indexOutOfRange index ids.size)

/-- A choice, by the index that a source draws. -/
def choose {σ : Type} [IndexSource σ] (ids : Identifiers) (source : σ) : Choice × σ :=
  if ids.isEmpty then (.failed .nothingToChoose, source)
  else
    match IndexSource.draw ids.size source with
    | (.index n, source) => (ids.at_ n, source)
    | (.failed message, source) => (.crashed message, source)

/-- The path of an identifier. -/
def path (id : String) : String := "/clusters/" ++ id

end Identifiers

end LoadSwarm
