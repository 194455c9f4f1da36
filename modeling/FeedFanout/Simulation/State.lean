import FeedFanout.Http.Stream
import FeedFanout.Metrics
import FeedFanout.Service.Basic
import FeedFanout.Simulation.Fault
import FeedFanout.Warm.Warmer
import FeedFanout.World

/-!
A running program with a virtual clock: the collaborators in memory, the faults to come, and everything that was told.
-/
namespace FeedFanout.Simulation

/-- Where posts and friendships are kept. -/
inductive Storage
  | memory
  /-- In memory, beside a pool of database connections. -/
  | memoryBesidePool (isOpen : Bool)
  /-- In a database whose pool of connections is closed. -/
  | closedPool
deriving DecidableEq, Repr

def Storage.hasPool : Storage → Bool
  | .memory => false
  | .memoryBesidePool _ | .closedPool => true

/-- Who hears the events of the service. -/
inductive Audience
  | nobody
  | listener
  /-- A listener, and the metrics. -/
  | metrics
deriving DecidableEq, Repr

/-- What does not change while the program runs. -/
structure Setup where
  service : Service
  warmer : Warmer
  storage : Storage
  /-- A push is a prepend and a trim. -/
  pushInTwo : Bool
  audience : Audience

/-- What was told, latest first, and what was counted. -/
structure Told where
  events : List Event
  remarks : List Remark
  metrics : Metrics

namespace Told

def nothing : Told := ⟨[], [], .empty⟩

def remark (told : Told) (r : Remark) : Told :=
  { told with remarks := r :: told.remarks, metrics := told.metrics.remark r }

def event (told : Told) (audience : Audience) (e : Event) : Told :=
  match audience with
  | .nobody => told
  | .listener => { told with events := e :: told.events }
  | .metrics =>
    let told := { told with events := e :: told.events, metrics := told.metrics.hear e }
    match e.remark? with
    | some r => told.remark r
    | none => told

end Told

structure State where
  world : World
  faults : List Fault
  /-- Milliseconds since the start. -/
  clock : Nat
  /-- Number of waits begun so far. -/
  waits : Nat
  told : Told

namespace State

def remark (s : State) (r : Remark) : State := { s with told := s.told.remark r }

def notice (s : State) (setup : Setup) : Notice → State
  | .event e => { s with told := s.told.event setup.audience e }
  | .remark r => s.remark r

/-- What a closed pool answers to a call that it gets. -/
def refused? : (call : Call) → Option call.Reply
  | .append _ => some (.error DatabaseError.poolClosed.toStore)
  | .query _ authors _ => if authors.isEmpty then some (.ok []) else some (.error DatabaseError.poolClosed.toStore)
  | .friendsOf _ => some (.error DatabaseError.poolClosed.toStore)
  | .users => some (.error DatabaseError.poolClosed.toStore)
  | .ping => some (.error .poolClosed)
  | _ => none

/-- What the storage answers itself, without the collaborators in memory. -/
def ownReply? (storage : Storage) (call : Call) : Option call.Reply :=
  match storage, call with
  | .closedPool, call => refused? call
  | .memoryBesidePool false, .ping => some (.error .poolClosed)
  | _, _ => none

/-- Does a call, whatever faults there are. -/
def perform (s : State) (setup : Setup) (call : Call) : call.Reply × State :=
  match ownReply? setup.storage call with
  | some reply => (reply, s)
  | none =>
    let answer := s.world.perform call
    (answer.reply, answer.remarks.foldl remark { s with world := answer.world })

end State

end FeedFanout.Simulation
