import FeedFanout.Entry
import FeedFanout.Table
import FeedFanout.Window

/-!
The cache of feeds: per user a list of entries, newest first. A feed comes into being with its first entry or with a
rebuild, and never goes away.
-/
namespace FeedFanout

structure FeedCache where
  feeds : Table UserId (List FeedEntry)

namespace FeedCache

def empty : FeedCache := ⟨.empty⟩

def feed? (cache : FeedCache) (user : UserId) : Option (List FeedEntry) := cache.feeds.get? user

/-- The feed of a user, empty if there is none. -/
def feed (cache : FeedCache) (user : UserId) : List FeedEntry := (cache.feed? user).getD []

def has (cache : FeedCache) (user : UserId) : Bool := (cache.feed? user).isSome

def put (cache : FeedCache) (user : UserId) (feed : List FeedEntry) : FeedCache := ⟨cache.feeds.set user feed⟩

def prepend (cache : FeedCache) (user : UserId) (entry : FeedEntry) : FeedCache :=
  cache.put user (entry :: cache.feed user)

/-- Keeps the first `cap` entries of a feed that is there. -/
def trim (cache : FeedCache) (user : UserId) (cap : Nat) : FeedCache :=
  match cache.feed? user with
  | some feed => cache.put user (feed.take cap)
  | none => cache

/-- A new head and at most `cap` entries, in one step. -/
def push (cache : FeedCache) (user : UserId) (entry : FeedEntry) (cap : Nat) : FeedCache :=
  cache.put user ((entry :: cache.feed user).take cap)

def read (cache : FeedCache) (user : UserId) (offset : Nat) (limit : Option Bound) : List FeedEntry :=
  Window.bounded limit ((cache.feed user).drop offset)

/-- The first `cap` of the given entries in place of whatever was there. -/
def rebuild (cache : FeedCache) (user : UserId) (entries : List FeedEntry) (cap : Nat) : FeedCache :=
  cache.put user (entries.take cap)

@[simp] theorem feed?_put (cache : FeedCache) (user other : UserId) (feed : List FeedEntry) :
    (cache.put user feed).feed? other = if other = user then some feed else cache.feed? other :=
  Table.get?_set ..

end FeedCache

end FeedFanout
