import FeedFanout.Task

/-!
The feed service: its settings, and the calls that every operation is made of. Each call but those of warm runs has
the same limited time.
-/
namespace FeedFanout

/-- Entries kept per feed unless configured otherwise. -/
def defaultCapacity : Nat := 1000

structure Service where
  /-- Entries kept per feed. -/
  capacity : Nat := defaultCapacity
  policy : Policy := .failFast
  /-- Time given to each call. -/
  limit : Span := .ofSeconds 5

namespace Service

/-- The reply to a call that belongs to an operation, in time. -/
def within (s : Service) (operation : Operation) (call : Call) : Task (Except FeedError call.Reply) := do
  match ← Task.callWithin s.limit call with
  | some reply => return .ok reply
  | none => return .error (.timeout operation s.limit)

/-- The friends of a user. -/
def friendsOf (s : Service) (user : UserId) : Task (Except FeedError (List UserId)) := do
  match ← s.within .friends (.friendsOf user) with
  | .error e => return .error e
  | .ok (.error e) => return .error (.friendGraphUnavailable user e)
  | .ok (.ok friends) => return .ok friends

end Service

end FeedFanout
