import FeedFanout.Power

/-!
Broadcast channels. A channel keeps its latest messages, a power of two of them; every receiver has a position in the
sequence of all messages sent. A receiver that fell behind what is kept is told once how many messages it missed and
goes on with the oldest one kept. A closed channel still hands out what it keeps.
-/
namespace FeedFanout.Live

/-- The least power of two that is not below `n`. -/
def powerFrom (n : Nat) : Nat := 2 ^ (n - 1).log2 * (if 2 ^ (n - 1).log2 < n then 2 else 1)

/-- The largest capacity that a channel can be opened with. -/
def largestCapacity : Nat := (2 ^ 64 - 1) / 2

structure Channel (α : Type) where
  /-- Number of messages kept at most. -/
  retention : Nat
  /-- Number of messages sent so far. -/
  sent : Nat
  /-- Messages kept, latest first. -/
  kept : List α
  receivers : Nat
  isOpen : Bool

/-- What a receiver gets. -/
inductive Receipt (α : Type)
  | message (value : α)
  | lagged (missed : Nat)
  | empty
  | closed
deriving DecidableEq, Repr

namespace Channel
variable {α : Type}

/-- A channel without receivers. There is none of capacity zero, and none that is too large to be addressed. -/
def open? (capacity : Nat) : Option (Channel α) :=
  if capacity = 0 ∨ largestCapacity < capacity then none
  else some ⟨powerFrom capacity, 0, [], 0, true⟩

/-- Another receiver, which starts behind the messages sent so far. -/
def attach (c : Channel α) : Channel α × Nat := ({ c with receivers := c.receivers + 1 }, c.sent)

def detach (c : Channel α) : Channel α := { c with receivers := c.receivers - 1 }

def close (c : Channel α) : Channel α := { c with isOpen := false }

/-- Sends a message; nothing is sent if nobody can receive it. -/
def send? (c : Channel α) (value : α) : Option (Channel α) :=
  if c.receivers = 0 then none
  else some { c with sent := c.sent + 1, kept := (value :: c.kept).take c.retention }

/-- What the receiver at `position` gets, and its new position. -/
def receive (c : Channel α) (position : Nat) : Receipt α × Nat :=
  if c.sent ≤ position then (if c.isOpen then .empty else .closed, position)
  else
    let oldest := c.sent - c.kept.length
    if position < oldest then (.lagged (oldest - position), oldest)
    else match c.kept[c.sent - 1 - position]? with
      | some value => (.message value, position + 1)
      | none => (.empty, position)

end Channel

end FeedFanout.Live
