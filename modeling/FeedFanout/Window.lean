import FeedFanout.Power

/-!
Windows on a feed. A request gives limit and offset as whole numbers, where `-1` and absence both mean "unspecified";
`Window.ofRaw` checks them. A window fits a cache of some capacity if it is bounded and ends before the capacity.
-/
namespace FeedFanout

/-- The largest limit or offset. -/
def Window.largest : Nat := 2 ^ 32 - 1

/-- The largest position in a list. -/
def Window.lastPosition : Nat := 2 ^ 64 - 1

abbrev Bound := Fin (2 ^ 32)

structure Window where
  /-- Number of posts at most; all of them if absent. -/
  limit : Option Bound
  /-- Posts passed over; none if absent. -/
  offset : Option Bound
deriving DecidableEq, Repr

/-- A limit or offset that no window has. -/
inductive WindowError
  | negative (field : String) (value : Int)
  | outOfRange (field : String) (value : Int)
deriving DecidableEq, Repr

def WindowError.message : WindowError → String
  | .negative field value => s!"{field} must be -1 or a non-negative integer, got {value}"
  | .outOfRange field value => s!"{field} value {value} exceeds supported range"

namespace Window

/-- The mark for "unspecified". -/
def unspecified : Int := -1

/-- The whole feed. -/
def all : Window := ⟨none, none⟩

def of (limit offset : Bound) : Window := ⟨some limit, some offset⟩

def component (field : String) : Option Int → Except WindowError (Option Bound)
  | none => .ok none
  | some value =>
    if value = unspecified then .ok none
    else if value < 0 then .error (.negative field value)
    else if h : value.toNat < 2 ^ 32 then .ok (some ⟨value.toNat, h⟩)
    else .error (.outOfRange field value)

/-- Checks the limit first. -/
def ofRaw (limit offset : Option Int) : Except WindowError Window := do
  let limit ← component "limit" limit
  let offset ← component "offset" offset
  return ⟨limit, offset⟩

def start (w : Window) : Nat := (w.offset.map (·.val)).getD 0

/-- The position behind the window, as far as positions go. -/
def stop (w : Window) : Option Nat := w.limit.map fun limit => min (w.start + limit.val) lastPosition

def sentinel (bound : Option Bound) : Int := (bound.map fun b => (b.val : Int)).getD unspecified

def isAll (w : Window) : Bool := w = all

/-- The window can be answered from the first `capacity` entries of a feed. -/
def fits (w : Window) (capacity : Nat) : Bool :=
  match w.stop with
  | some stop => stop < capacity
  | none => false

/-- At most `limit` elements, all of them if there is no limit. -/
def bounded {α : Type} (limit : Option Bound) (xs : List α) : List α :=
  match limit with
  | some limit => xs.take limit.val
  | none => xs

/-- The elements in the window. -/
def select {α : Type} (w : Window) (xs : List α) : List α := bounded w.limit (xs.drop w.start)

end Window

end FeedFanout
