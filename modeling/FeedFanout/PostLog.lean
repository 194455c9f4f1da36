import FeedFanout.IdSet
import FeedFanout.Post
import FeedFanout.Window

/-!
The log of posts: append-only, newest first, with the set of identifiers in use beside it. A query takes the posts of
a set of authors and then a window of them.
-/
namespace FeedFanout

/-- Why a call to a store of posts or friendships failed. -/
inductive StoreError
  | persistence (message : String)
  | duplicate (constraint : String)
  | invalidInput (message : String)
  | integrity (message : String)
  | timeout
deriving DecidableEq, Repr

namespace StoreError

def message : StoreError → String
  | .persistence message => s!"persistence error: {message}"
  | .duplicate constraint => s!"duplicate record violates unique constraint `{constraint}`"
  | .invalidInput message => s!"invalid input: {message}"
  | .integrity message => s!"integrity violation: {message}"
  | .timeout => "database timeout"

def chain (e : StoreError) : List String := [e.message]

end StoreError

structure PostLog where
  /-- Newest first. -/
  posts : List Post
  taken : IdSet .post

namespace PostLog

def empty : PostLog := ⟨[], .empty⟩

def length (log : PostLog) : Nat := log.posts.length

def append (log : PostLog) (post : Post) : Except StoreError PostLog :=
  if post.id ∈ log.taken then .error (.duplicate "posts_pkey")
  else .ok ⟨post :: log.posts, log.taken.insert post.id⟩

/-- The posts by any of the authors, newest first. -/
def byAuthors (log : PostLog) (authors : List UserId) : List Post := log.posts.filter (·.author ∈ authors)

def query (log : PostLog) (authors : List UserId) (window : Window) : List Post :=
  window.select (log.byAuthors authors)

end PostLog

end FeedFanout
