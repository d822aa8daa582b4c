/-
  The moves of users.

  * `Behavior.after`, `Behavior.move`: what a user does move by move, by itself.
  * `IndexSource.after`, `IndexSource.drawAt`: what a source answers draw by draw.
  * `User.move_eq`, `User.after_eq`: every move of a user with identifiers takes one draw, and is
    the choice at it; `User.move_of_isEmpty`, `User.after_of_isEmpty`: without any there is no draw.
  * `User.next_of_stream`: a user with identifiers and a stream of random words always requests
    the path of one of them.
  * `User.of_move_eq_request`: the request with a number is the path of the identifier at the draw
    with that number.
-/
import LoadSwarm.Proofs.Random.Draw
import LoadSwarm.Users.Behavior

namespace LoadSwarm

/-! ## One after the other -/

namespace Behavior
variable {β : Type} [Behavior β]

/-- A behavior after a number of moves. -/
def after (b : β) : Nat → β
  | 0 => b
  | n + 1 => (next (after b n)).2

/-- The move with a number. -/
def move (b : β) (n : Nat) : Move := (next (after b n)).1

end Behavior

namespace IndexSource
variable {σ : Type} [IndexSource σ]

/-- A source after a number of draws, each of one of `len` things. -/
def after (len : Nat) (s : σ) : Nat → σ
  | 0 => s
  | k + 1 => (draw len (after len s k)).2

/-- The draw with a number, of one of `len` things. -/
def drawAt (len : Nat) (s : σ) (k : Nat) : Draw := (draw len (after len s k)).1

end IndexSource

/-! ## Users -/

theorem User.next_identifiers {σ : Type} [IndexSource σ] (u : User σ) :
    u.next.2.identifiers = u.identifiers := rfl

/-- The choice at a draw. -/
def Identifiers.choiceAt (ids : Identifiers) : Draw → Choice
  | .index n => ids.at_ n
  | .failed message => .crashed message

/-- With identifiers, a choice is the one at the next draw. -/
theorem Identifiers.choose_eq {σ : Type} [IndexSource σ] {ids : Identifiers}
    (h : ids.isEmpty = false) (s : σ) :
    ids.choose s =
      (ids.choiceAt (IndexSource.draw ids.size s).1, (IndexSource.draw ids.size s).2) := by
  unfold choose
  rw [h, if_neg (by simp)]
  rcases IndexSource.draw ids.size s with ⟨_ | _, _⟩ <;> rfl

theorem Identifiers.at_of_lt (ids : Identifiers) {n : Nat} (h : n < ids.size) :
    ∃ id ∈ ids.toList, ids.at_ n = .chosen id := by
  refine ⟨ids.toList[n], List.getElem_mem h, ?_⟩
  unfold at_
  rw [List.getElem?_eq_getElem h]

/-- **A user with identifiers and a stream of random words always has a request.** -/
theorem User.next_of_stream {u : User WordStream} (h : u.identifiers.isEmpty = false) :
    ∃ id ∈ u.identifiers.toList, u.next.1 = .request (Identifiers.path id) := by
  have hsize : 0 < u.identifiers.size := by
    unfold Identifiers.isEmpty at h
    exact List.length_pos_iff.2 (by simpa using h)
  obtain ⟨n, s', hd, hn⟩ := WordStream.draw_eq hsize u.source
  obtain ⟨id, hid, hat⟩ := u.identifiers.at_of_lt hn
  refine ⟨id, hid, ?_⟩
  unfold User.next
  rw [Identifiers.choose_eq h, hd]
  dsimp only [Identifiers.choiceAt]
  rw [hat]; rfl

section
variable {σ : Type} [IndexSource σ]

/-- With identifiers to choose from, every move takes one draw. -/
theorem User.after_eq {u : User σ} (h : u.identifiers.isEmpty = false) (k : Nat) :
    Behavior.after u k =
      { u with source := IndexSource.after u.identifiers.size u.source k } := by
  induction k with
  | zero => rfl
  | succ k ih =>
    rw [Behavior.after, ih, IndexSource.after]
    exact congrArg (fun c : Choice × σ => { u with source := c.2 }) (Identifiers.choose_eq h _)

/-- With identifiers to choose from, a move is the choice at the draw with its number. -/
theorem User.move_eq {u : User σ} (h : u.identifiers.isEmpty = false) (k : Nat) :
    Behavior.move u k =
      (u.identifiers.choiceAt (IndexSource.drawAt u.identifiers.size u.source k)).move := by
  rw [Behavior.move, User.after_eq h]
  exact congrArg (fun c : Choice × σ => c.1.move) (Identifiers.choose_eq h _)

/-- Without identifiers a user stays as it is. -/
theorem User.after_of_isEmpty {u : User σ} (h : u.identifiers.isEmpty = true) (k : Nat) :
    Behavior.after u k = u := by
  have hnext : u.next.2 = u := by
    unfold User.next Identifiers.choose
    rw [h]; rfl
  induction k with
  | zero => rfl
  | succ k ih => rw [Behavior.after, ih]; exact hnext

/-- Without identifiers every move fails. -/
theorem User.move_of_isEmpty {u : User σ} (h : u.identifiers.isEmpty = true) (k : Nat) :
    Behavior.move u k = .fail .nothingToChoose := by
  have hnext : u.next.1 = .fail .nothingToChoose := by
    unfold User.next Identifiers.choose
    rw [h]; rfl
  rw [Behavior.move, User.after_of_isEmpty h]
  exact hnext

/-- **The request with a number is the path of the identifier at the draw with that number.** -/
theorem User.of_move_eq_request {u : User σ} {k : Nat} {path : String}
    (h : Behavior.move u k = .request path) :
    ∃ n id, IndexSource.drawAt u.identifiers.size u.source k = .index n ∧
      u.identifiers.toList[n]? = some id ∧ path = Identifiers.path id := by
  rcases hempty : u.identifiers.isEmpty with _ | _
  · rw [User.move_eq hempty] at h
    rcases hdraw : IndexSource.drawAt u.identifiers.size u.source k with n | message
    · rw [hdraw] at h
      dsimp only [Identifiers.choiceAt, Identifiers.at_] at h
      rcases hid : u.identifiers.toList[n]? with _ | id
      · rw [hid] at h; cases h
      · rw [hid] at h
        exact ⟨n, id, rfl, hid, (Move.request.inj h).symm⟩
    · rw [hdraw] at h; cases h
  · rw [User.move_of_isEmpty hempty] at h; cases h

end

end LoadSwarm
