import FeedFanout.Task

/-!
The warmer: it rebuilds cached feeds from the store, one user's or all users'. A user whose rebuild fails is reported
and stops nobody else's.
-/
namespace FeedFanout

structure Warmer where
  /-- Entries per rebuilt feed. -/
  capacity : Nat
  /-- Users being rebuilt at a time, at least one. -/
  concurrency : Nat

/-- A rebuild that has come to its end. -/
structure Warmed where
  user : UserId
  result : Except WarmError Unit

/-- A task may have a middle part in which many users' feeds are rebuilt side by side. -/
inductive Stage (α : Type)
  | answer (value : α)
  | warmEach (users : List UserId) (finish : List Warmed → Task α)

abbrev Plan (α : Type) := Task (Stage α)

namespace Plan
variable {α β : Type}

def ofTask (task : Task α) : Plan α := task.bind fun value => .done (.answer value)

/-- Goes on with the answer of a plan. -/
def andThen (plan : Plan α) (f : α → Task β) : Plan β :=
  Task.bind plan fun stage =>
    match stage with
    | .answer value => ofTask (f value)
    | .warmEach users finish => .done (.warmEach users fun results => (finish results).bind f)

end Plan

namespace Warmer

/-- As many posts as a feed holds. -/
def window (w : Warmer) : Window :=
  ⟨some ⟨min w.capacity Window.largest, by simp only [Window.largest]; omega⟩, some 0⟩

/-- Rebuilds one user's feed. -/
def warmUser (w : Warmer) (user : UserId) : Task (Except WarmError Unit) := do
  match ← Task.call (.friendsOf user) with
  | .error e => return .error (.friends e)
  | .ok friends =>
    match ← Task.call (.query user friends w.window) with
    | .error e => return .error (.posts e)
    | .ok posts =>
      match FeedEntry.encodeAll posts with
      | .error e => return .error (.cache e)
      | .ok entries =>
        match ← Task.call (.rebuild user entries w.capacity) with
        | .error e => return .error (.cache e)
        | .ok () => return .ok ()

/-- What follows when a feed was to be written. -/
def written : Except CacheError Unit → Task (Except WarmError Unit)
  | .error e => .done (.error (.cache e))
  | .ok () => .done (.ok ())

/-- What follows when the store was asked for posts. -/
def found (w : Warmer) (user : UserId) : Except StoreError (List Post) → Task (Except WarmError Unit)
  | .error e => .done (.error (.posts e))
  | .ok posts => .ask (.rebuild user (posts.map .snapshot) w.capacity) written

/-- What follows when the graph was asked for friends. -/
def befriended (w : Warmer) (user : UserId) : Except StoreError (List UserId) → Task (Except WarmError Unit)
  | .error e => .done (.error (.friends e))
  | .ok friends => .ask (.query user friends w.window) (w.found user)

theorem warmUser_eq (w : Warmer) (user : UserId) : w.warmUser user = .ask (.friendsOf user) (w.befriended user) := by
  change Task.ask _ _ = _
  congr
  funext reply
  obtain e | friends := reply
  · rfl
  change Task.ask _ _ = Task.ask _ _
  congr
  funext reply
  obtain e | posts := reply
  · rfl
  simp only [Task.done_bind, FeedEntry.encodeAll_eq, found]
  change Task.ask _ _ = Task.ask _ _
  congr
  funext reply
  obtain e | done := reply <;> rfl

/-- Tells of the rebuilds that failed and sums up. -/
def summarize : List Warmed → Task WarmReport
  | [] => return ⟨0, []⟩
  | warmed :: rest => do
    match warmed.result with
    | .ok () =>
      let report ← summarize rest
      return { report with warmed := report.warmed + 1 }
    | .error e =>
      Task.remark (.userNotWarmed warmed.user e)
      let report ← summarize rest
      return { report with failures := ⟨warmed.user, e.message⟩ :: report.failures }

/-- The end of a run over all users. -/
def finish (results : List Warmed) : Task (Except WarmError WarmReport) := do
  let report ← summarize results
  Task.remark (.warmFinished report)
  return .ok report

/-- Rebuilds the feed of every known user. -/
def warmAll (_ : Warmer) : Plan (Except WarmError WarmReport) := show Task _ from do
  Task.remark .warmStarted
  match ← Task.call .users with
  | .error e => return .answer (.error (.directory e))
  | .ok users => return .warmEach users finish

end Warmer

end FeedFanout
