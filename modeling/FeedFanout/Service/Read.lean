import FeedFanout.Service.Basic

/-!
Reading a window of a feed. The cache answers if the feed is there and the window ends before the capacity; the store
answers otherwise, and also when the cache fails. Reading changes nothing.
-/
namespace FeedFanout

structure FeedPage where
  posts : List Post
  source : Source
deriving DecidableEq, Repr

namespace Service

/-- What a read of the cached feed comes to. -/
inductive CachedRead
  | absent
  | unavailable (reason : String)
  | corrupt (error : CacheError)
  | posts (posts : List Post)

/-- Posts of all entries, or the error of the first that cannot be decoded. -/
def decodeAll : List FeedEntry → Except CacheError (List Post)
  | [] => .ok []
  | entry :: entries =>
    match entry.decode with
    | .error e => .error e
    | .ok post =>
      match decodeAll entries with
      | .error e => .error e
      | .ok posts => .ok (post :: posts)

/-- The entries of a cached feed in a window, decoded. -/
def readCached (s : Service) (user : UserId) (window : Window) : Task CachedRead := do
  match ← s.within .exists (.exists user) with
  | .error e => return .unavailable e.message
  | .ok (.error e) => return .unavailable e.message
  | .ok (.ok false) => return .absent
  | .ok (.ok true) =>
    match ← s.within .read (.read user window.start window.limit) with
    | .error e => return .unavailable e.message
    | .ok (.error e) => return .unavailable e.message
    | .ok (.ok entries) =>
      match decodeAll entries with
      | .error e => return .corrupt e
      | .ok posts => return .posts posts

/-- Tells where a page came from. -/
def served (user : UserId) (page : FeedPage) : Task (Except FeedError FeedPage) := do
  Task.event (.served user page.source page.posts.length)
  return .ok page

/-- A page from the posts of the user's friends. -/
def readStored (s : Service) (user : UserId) (window : Window) : Task (Except FeedError FeedPage) := do
  match ← s.friendsOf user with
  | .error e => return .error e
  | .ok friends =>
    match ← s.within .query (.query user friends window) with
    | .error e => return .error e
    | .ok (.error e) => return .error (.storageUnavailable e)
    | .ok (.ok posts) => served user ⟨posts, .store⟩

/-- A window of a user's feed. -/
def feedPage (s : Service) (user : UserId) (window : Window) : Task (Except FeedError FeedPage) :=
  if window.fits s.capacity then do
    match ← s.readCached user window with
    | .posts posts => served user ⟨posts, .cache⟩
    | .absent => s.readStored user window
    | .corrupt e => return .error (.corruptEntry e)
    | .unavailable reason =>
      Task.remark (.cacheUnavailable user reason)
      Task.event (.degraded user)
      s.readStored user window
  else s.readStored user window

/-- The posts alone. -/
def getFeed (s : Service) (user : UserId) (window : Window) : Task (Except FeedError (List Post)) := do
  match ← s.feedPage user window with
  | .error e => return .error e
  | .ok page => return .ok page.posts

end Service

end FeedFanout
