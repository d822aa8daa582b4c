/-
  A flag that is set once and seen by all.

  * `Latch`: remembers the reason of the first trigger.
  * `Channels`: any number of latches with handles that trigger them and listeners
    that wait for them; handles and listeners are known by their slots.
  * `Channels.step`: one operation on a slot.  A listener's wait is over once its
    latch is triggered, or when no handle could trigger it any more.
-/

namespace LoadSwarm

/-- A flag with the reason of its first trigger. -/
structure Latch where
  reason : Option String := none
  deriving DecidableEq, Repr

namespace Latch

/-- Whether the flag is set. -/
def isTriggered (l : Latch) : Bool := l.reason.isSome

/-- Sets the flag; a later reason changes nothing. -/
def trigger (l : Latch) (reason : String) : Latch :=
  match l.reason with
  | some _ => l
  | none => ⟨some reason⟩

/-- The reason that a trigger announces: only the first one does. -/
def announced? (l : Latch) (reason : String) : Option String :=
  match l.reason with
  | some _ => none
  | none => some reason

end Latch

/-- Latches with their handles and listeners; a dropped one leaves an empty slot. -/
structure Channels where
  latches : List Latch
  handles : List (Option Nat)
  listeners : List (Option Nat)
  deriving DecidableEq, Repr

/-- An operation on channels. -/
inductive ChannelStep where
  | create
  | cloneHandle (slot : Nat)
  | listen (slot : Nat)
  | cloneListener (slot : Nat)
  | trigger (slot : Nat) (reason : String)
  | poll (slot : Nat)
  | dropHandle (slot : Nat)
  | dropListener (slot : Nat)
  deriving DecidableEq, Repr

/-- What an operation answers. -/
inductive ChannelAnswer where
  | slot (n : Nat)
  | done
  | over (b : Bool)
  | noSuchSlot
  deriving DecidableEq, Repr

namespace Channels

/-- One channel with one handle. -/
def initial : Channels := ⟨[{}], [some 0], []⟩

/-- The latch of a channel. -/
def latch (c : Channels) (channel : Nat) : Latch := c.latches.getD channel {}

/-- The channel of a live handle. -/
def handle? (c : Channels) (slot : Nat) : Option Nat := (c.handles[slot]?).join

/-- The channel of a live listener. -/
def listener? (c : Channels) (slot : Nat) : Option Nat := (c.listeners[slot]?).join

/-- Whether some live handle can trigger a channel. -/
def hasHandle (c : Channels) (channel : Nat) : Bool := c.handles.contains (some channel)

/-- What each handle reports; nothing for a dropped one. -/
def handleViews (c : Channels) : List (Option Bool) :=
  c.handles.map (·.map fun ch => (c.latch ch).isTriggered)

/-- What each listener reports; nothing for a dropped one. -/
def listenerViews (c : Channels) : List (Option Bool) :=
  c.listeners.map (·.map fun ch => (c.latch ch).isTriggered)

/-- One operation: the channels after it, its answer, and the reason it announces. -/
def step (c : Channels) : ChannelStep → Channels × ChannelAnswer × Option String
  | .create =>
    ({ c with latches := c.latches ++ [{}], handles := c.handles ++ [some c.latches.length] },
      .slot c.handles.length, none)
  | .cloneHandle slot =>
    match c.handle? slot with
    | some ch => ({ c with handles := c.handles ++ [some ch] }, .slot c.handles.length, none)
    | none => (c, .noSuchSlot, none)
  | .listen slot =>
    match c.handle? slot with
    | some ch => ({ c with listeners := c.listeners ++ [some ch] }, .slot c.listeners.length, none)
    | none => (c, .noSuchSlot, none)
  | .cloneListener slot =>
    match c.listener? slot with
    | some ch => ({ c with listeners := c.listeners ++ [some ch] }, .slot c.listeners.length, none)
    | none => (c, .noSuchSlot, none)
  | .trigger slot reason =>
    match c.handle? slot with
    | some ch =>
      ({ c with latches := c.latches.set ch ((c.latch ch).trigger reason) }, .done,
        (c.latch ch).announced? reason)
    | none => (c, .noSuchSlot, none)
  | .poll slot =>
    match c.listener? slot with
    | some ch => (c, .over ((c.latch ch).isTriggered || !c.hasHandle ch), none)
    | none => (c, .noSuchSlot, none)
  | .dropHandle slot =>
    if slot < c.handles.length then ({ c with handles := c.handles.set slot none }, .done, none)
    else (c, .noSuchSlot, none)
  | .dropListener slot =>
    if slot < c.listeners.length then
      ({ c with listeners := c.listeners.set slot none }, .done, none)
    else (c, .noSuchSlot, none)

end Channels

end LoadSwarm
