import FeedFanout.Proofs.Posting
import FeedFanout.Proofs.Reading

/-!
Copies of posts in the cache. The snapshot of a post is read back as the post that it was taken of, so that no two posts
share one. A cache into which only snapshots go therefore behaves as if it held the posts themselves: whatever is done
to its feeds, what is read from one is what a shelf of posts would show (`Filing.reads_back`).
-/
namespace FeedFanout

theorem FeedEntry.bytes_injective : Function.Injective FeedEntry.bytes := by
  rintro ⟨first⟩ ⟨second⟩ same
  exact congrArg FeedEntry.mk same

/-- What is done to the feeds of a cache with copies of posts. -/
inductive Filing
  | prepend (user : UserId) (post : Post)
  | push (user : UserId) (post : Post) (cap : Nat)
  | trim (user : UserId) (cap : Nat)
  | rebuild (user : UserId) (posts : List Post) (cap : Nat)

namespace Filing

/-- The call to the cache, with the snapshots of the posts. -/
def call : Filing → Call
  | prepend user post => .prepend user (.snapshot post)
  | push user post cap => .push user (.snapshot post) cap
  | trim user cap => .trim user cap
  | rebuild user posts cap => .rebuild user (posts.map .snapshot) cap

/-- What becomes of a user's shelf, where the posts themselves stand. -/
def shelve (user : UserId) (shelf : List Post) : Filing → List Post
  | prepend other post => if other = user then post :: shelf else shelf
  | push other post cap => if other = user then (post :: shelf).take cap else shelf
  | trim other cap => if other = user then shelf.take cap else shelf
  | rebuild other posts cap => if other = user then posts.take cap else shelf

/-- The world after several of these calls. -/
def file (filings : List Filing) (w : World) : World := filings.foldl (fun w filing => (w.perform filing.call).world) w

theorem feed_call {w : World} {user : UserId} {shelf : List Post} (copied : w.cache.feed user = shelf.map .snapshot)
    (filing : Filing) :
    (w.perform filing.call).world.cache.feed user = (filing.shelve user shelf).map .snapshot := by
  cases filing with
  | prepend other post =>
    change (w.cache.prepend other (.snapshot post)).feed user = _
    rw [FeedCache.feed_prepend, shelve]
    by_cases mine : user = other
    · simp [mine, ← copied]
    · simp [mine, Ne.symm mine, copied]
  | push other post cap =>
    change (w.cache.push other (.snapshot post) cap).feed user = _
    rw [FeedCache.feed_push, shelve]
    by_cases mine : user = other
    · simp [mine, ← copied, List.map_take]
    · simp [mine, Ne.symm mine, copied]
  | trim other cap =>
    change (w.cache.trim other cap).feed user = _
    rw [FeedCache.feed_trim, shelve]
    by_cases mine : user = other
    · simp [mine, ← copied, List.map_take]
    · simp [mine, Ne.symm mine, copied]
  | rebuild other posts cap =>
    change (w.cache.rebuild other (posts.map .snapshot) cap).feed user = _
    rw [FeedCache.feed_rebuild, shelve]
    by_cases mine : user = other
    · simp [mine, List.map_take]
    · simp [mine, Ne.symm mine, copied]

theorem feed_file {w : World} {user : UserId} {shelf : List Post} (copied : w.cache.feed user = shelf.map .snapshot)
    (filings : List Filing) :
    (file filings w).cache.feed user = (filings.foldl (shelve user) shelf).map .snapshot := by
  induction filings generalizing w shelf with
  | nil => exact copied
  | cons filing filings ih => exact ih (feed_call copied filing)

/-- What is read from a feed of copies is the window of the shelf. -/
theorem decodeAll_file (filings : List Filing) (w : World) (user : UserId) (offset : Nat) (limit : Option Bound) :
    Service.decodeAll ((file filings { w with cache := .empty }).cache.read user offset limit) =
      .ok (Window.bounded limit ((filings.foldl (shelve user) []).drop offset)) := by
  have copied : (file filings { w with cache := .empty }).cache.feed user =
      (filings.foldl (shelve user) []).map .snapshot := feed_file rfl filings
  have read : (file filings { w with cache := .empty }).cache.read user offset limit =
      (Window.bounded limit ((filings.foldl (shelve user) []).drop offset)).map .snapshot := by
    rw [FeedCache.read, copied, ← List.map_drop, Window.bounded_map]
  rw [read, Service.decodeAll_snapshots]

/-- Posts pushed one after the other, each to some user. -/
def pushes (cap : Nat) (posts : List (UserId × Post)) : List Filing := posts.map fun (user, post) => push user post cap

theorem foldl_pushes (cap : Nat) (posts : List (UserId × Post)) (user : UserId) {shelf : List Post}
    (small : shelf.length ≤ cap) :
    (pushes cap posts).foldl (shelve user) shelf =
      (((posts.filter (·.1 = user)).map (·.2)).reverse ++ shelf).take cap := by
  induction posts generalizing shelf with
  | nil => simpa [pushes] using (List.take_of_length_le small).symm
  | cons pushed posts ih =>
    obtain ⟨other, post⟩ := pushed
    change (pushes cap posts).foldl (shelve user) (shelve user shelf (push other post cap)) = _
    by_cases mine : other = user
    · have room : ((post :: shelf).take cap).length ≤ cap := List.length_take_le ..
      rw [shelve, if_pos mine, ih room, take_append_take]
      simp [mine]
    · rw [shelve, if_neg mine, ih small]
      simp [mine]

/-- Every post has a snapshot and is read back from it, different posts have different snapshots, and what is read from a
feed of snapshots are the posts that went into it, in order. Of posts that were pushed, the latest are there, newest
first. -/
theorem reads_back :
    (∀ post : Post, FeedEntry.encode post = .ok (.snapshot post) ∧ (FeedEntry.snapshot post).decode = .ok post) ∧
    (Function.Injective fun post : Post => (FeedEntry.snapshot post).bytes) ∧
    ∀ (w : World) (user : UserId) (offset : Nat) (limit : Option Bound),
      (∀ filings, Service.decodeAll ((file filings { w with cache := .empty }).cache.read user offset limit) =
        .ok (Window.bounded limit ((filings.foldl (shelve user) []).drop offset))) ∧
      ∀ cap posts, Service.decodeAll
          ((file (pushes cap posts) { w with cache := .empty }).cache.read user offset limit) =
        .ok (Window.bounded limit
          ((((posts.filter (·.1 = user)).map (·.2)).reverse.take cap).drop offset)) := by
  refine ⟨fun post => ⟨FeedEntry.encode_eq post, FeedEntry.decode_snapshot post⟩, ?_, ?_⟩
  · exact FeedEntry.bytes_injective.comp FeedEntry.snapshot_injective
  intro w user offset limit
  refine ⟨fun filings => decodeAll_file filings w user offset limit, ?_⟩
  intro cap posts
  have nothing : ([] : List Post).length ≤ cap := Nat.zero_le cap
  have shelved := foldl_pushes cap posts user nothing
  rw [List.append_nil] at shelved
  rw [decodeAll_file, shelved]

end Filing
end FeedFanout
