/-
  What users do.

  * `Move`: what an iteration of a user amounts to: one request, or an end.
  * `Behavior`: anything that knows its next move.
  * `User`: a behavior that requests the path of a chosen identifier in every
    iteration.  Its moves depend on its identifiers and its index source alone.
-/
import LoadSwarm.Users.Identifiers

namespace LoadSwarm

/-- What a user does in an iteration. -/
inductive Move where
  | request (path : String)
  | fail (e : UserError)
  | crash (message : String)
  deriving DecidableEq, Repr

/-- Something that moves, and has a name. -/
class Behavior (β : Type) where
  name : String
  next : β → Move × β

/-- A user that requests chosen identifiers. -/
structure User (σ : Type) where
  identifiers : Identifiers
  source : σ

/-- The move that follows from a choice. -/
def Choice.move : Choice → Move
  | chosen id => .request (Identifiers.path id)
  | failed e => .fail e
  | crashed message => .crash message

/-- The next move of a user. -/
def User.next {σ : Type} [IndexSource σ] (u : User σ) : Move × User σ :=
  let (choice, source) := u.identifiers.choose u.source
  (choice.move, { u with source := source })

instance {σ : Type} [IndexSource σ] : Behavior (User σ) where
  name := "clusters"
  next := User.next

end LoadSwarm
