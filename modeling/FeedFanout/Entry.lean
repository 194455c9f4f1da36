import FeedFanout.Post

/-!
Feed entries: the wire form of a post as bytes, kept as they came, and the faults of a cache of feeds.
-/
namespace FeedFanout

/-- A copy of a post in a feed. -/
structure FeedEntry where
  bytes : ByteArray

instance : DecidableEq FeedEntry := fun a b =>
  decidable_of_decidable_of_iff (p := a.bytes.data = b.bytes.data) <| by
    cases a; cases b
    simp [ByteArray.ext_iff]

/-- Why a call to the cache of feeds failed. -/
inductive CacheError
  | unavailable (message : String)
  | codec (error : Post.CodecError)

namespace CacheError

def message : CacheError → String
  | .unavailable message => s!"feed cache unavailable: {message}"
  | .codec error => s!"feed entry codec failed: {Post.CodecError.message error}"

/-- The texts of an error and of what lies under it, outermost first. -/
def chain (e : CacheError) : List String :=
  match e with
  | .unavailable _ => [e.message]
  | .codec error => [e.message, Post.CodecError.message error]

end CacheError

namespace FeedEntry

def snapshot (post : Post) : FeedEntry := ⟨post.wire.toUTF8⟩

def encode (post : Post) : Except CacheError FeedEntry :=
  match post.encode with
  | .ok text => .ok ⟨text.toUTF8⟩
  | .error e => .error (.codec e)

/-- Of every post there is a copy. -/
@[simp] theorem encode_eq (post : Post) : encode post = .ok (snapshot post) := by
  rw [encode, Post.encode_eq]
  rfl

/-- Copies of all posts, or the error of the first that cannot be written. -/
def encodeAll : List Post → Except CacheError (List FeedEntry)
  | [] => .ok []
  | post :: posts =>
    match encode post with
    | .error e => .error e
    | .ok entry =>
      match encodeAll posts with
      | .error e => .error e
      | .ok entries => .ok (entry :: entries)

@[simp] theorem encodeAll_eq (posts : List Post) : encodeAll posts = .ok (posts.map snapshot) := by
  induction posts with
  | nil => rfl
  | cons post posts ih => rw [encodeAll, encode_eq, ih]; rfl

def decode (entry : FeedEntry) : Except CacheError Post := (Post.decode entry.bytes).mapError .codec

end FeedEntry

end FeedFanout
