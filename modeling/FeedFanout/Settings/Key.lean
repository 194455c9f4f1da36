import FeedFanout.Decimal.Integer

/-!
The keys of the settings. Each belongs to a group and holds a text, a flag or a count. A `Draft` gives some keys a
value; drafts are laid over one another key by key (`Draft.onto`).
-/
namespace FeedFanout.Settings

inductive Kind
  | text
  | flag
  | count (largest : Nat)
deriving DecidableEq, Repr

/-- What a key of this kind holds. -/
@[reducible] def Kind.Value : Kind → Type
  | .text => String
  | .flag => Bool
  | .count largest => Fin (largest + 1)

def largest16 : Nat := 2 ^ 16 - 1
def largest32 : Nat := 2 ^ 32 - 1
def largest64 : Nat := Decimal.largestNat64

inductive Group
  | server
  | logging
  | database
  | feed
  | notifier
  | warmer
deriving DecidableEq, Repr

def Group.name : Group → String
  | .server => "server"
  | .logging => "logging"
  | .database => "database"
  | .feed => "feed"
  | .notifier => "notifier"
  | .warmer => "warmer"

inductive Key
  | host
  | port
  | gracefulShutdown
  | level
  | json
  | url
  | maxConnections
  | cacheCapacity
  | policy
  | ioTimeout
  | channelCapacity
  | onStartup
  | interval
  | concurrency
deriving DecidableEq, Repr

namespace Key

def all : List Key :=
  [.host, .port, .gracefulShutdown, .level, .json, .url, .maxConnections, .cacheCapacity, .policy, .ioTimeout,
    .channelCapacity, .onStartup, .interval, .concurrency]

theorem mem_all (key : Key) : key ∈ all := by cases key <;> decide

def group : Key → Group
  | .host | .port | .gracefulShutdown => .server
  | .level | .json => .logging
  | .url | .maxConnections => .database
  | .cacheCapacity | .policy | .ioTimeout => .feed
  | .channelCapacity => .notifier
  | .onStartup | .interval | .concurrency => .warmer

/-- The name of the key inside its group. -/
def name : Key → String
  | .host => "host"
  | .port => "port"
  | .gracefulShutdown => "graceful_shutdown_seconds"
  | .level => "level"
  | .json => "json"
  | .url => "url"
  | .maxConnections => "max_connections"
  | .cacheCapacity => "cache_capacity"
  | .policy => "fanout_policy"
  | .ioTimeout => "io_timeout_ms"
  | .channelCapacity => "channel_capacity"
  | .onStartup => "on_startup"
  | .interval => "interval_seconds"
  | .concurrency => "concurrency"

def path (key : Key) : String := s!"{key.group.name}.{key.name}"

@[reducible] def kind : Key → Kind
  | .host | .level | .url | .policy => .text
  | .json | .onStartup => .flag
  | .port => .count largest16
  | .maxConnections => .count largest32
  | .gracefulShutdown | .cacheCapacity | .ioTimeout | .channelCapacity | .interval | .concurrency => .count largest64

/-- The keys of a group. In a list in place of a table, values stand in this order. -/
def ofGroup (group : Group) : List Key := all.filter (·.group = group)

/-- Where a key stands among those of its group. -/
def position (key : Key) : Nat := (ofGroup key.group).idxOf key

end Key

/-- Values for some of the keys. -/
def Draft := (key : Key) → Option key.kind.Value

namespace Draft

def empty : Draft := fun _ => none

instance : Inhabited Draft := ⟨empty⟩

def set (draft : Draft) (key : Key) (value : key.kind.Value) : Draft :=
  fun other => if h : key = other then some (h ▸ value) else draft other

/-- Takes each key from `upper` if that has it, else from `lower`. -/
def onto (upper lower : Draft) : Draft := fun key => (upper key).or (lower key)

@[simp] theorem set_self (draft : Draft) (key : Key) (value : key.kind.Value) :
    draft.set key value key = some value := by
  simp [set]

theorem set_of_ne (draft : Draft) {key other : Key} (value : key.kind.Value) (h : key ≠ other) :
    draft.set key value other = draft other := by
  simp [set, h]

end Draft

end FeedFanout.Settings
