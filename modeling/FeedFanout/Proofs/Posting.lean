import FeedFanout.Proofs.Friendship
import FeedFanout.Proofs.Runs
import FeedFanout.Service.Create

/-!
Posting without faults. A post that its author creates is stored and pushed to each of the author's friends, and any
other is refused (`Service.run_createPost`). In a friend's feed it comes first (`FeedCache.feed?_foldl_push`).
-/
namespace FeedFanout

theorem Live.Notifier.publish_open {n : Live.Notifier} (running : n.isClosed = false) (user : UserId) (post : Post) :
    ∃ published next, n.publish user post = .ok (published, next) ∧ next.isClosed = false := by
  rw [publish_eq, if_neg (by simp [running])]
  split
  · exact ⟨_, _, rfl, running⟩
  · split
    · exact ⟨_, _, rfl, running⟩
    · exact ⟨_, _, rfl, running⟩

theorem Live.Notifier.subscribe?_isClosed {n next : Live.Notifier} {user : UserId} {stream : Live.Stream}
    (subscribed : n.subscribe? user = some (stream, next)) : next.isClosed = n.isClosed := by
  unfold subscribe? at subscribed
  split at subscribed
  · cases subscribed; rfl
  split at subscribed <;> split at subscribed <;> cases subscribed <;> rfl

namespace World

theorem perform_publish {w : World} (running : w.notifier.isClosed = false) (user : UserId) (post : Post) :
    ∃ notifier, (w.perform (.publish user post)).reply = .ok () ∧
      (w.perform (.publish user post)).world = { w with notifier } ∧ notifier.isClosed = false := by
  obtain ⟨published, next, sent, still⟩ := Live.Notifier.publish_open running user post
  refine ⟨next, ?_⟩
  cases published <;> simp [perform, sent, still]

/-- A post pushed into a friend's feed and published to them. -/
def sent (w : World) (post : Post) (cap : Nat) (friend : UserId) : World :=
  ((w.perform (.push friend (.snapshot post) cap)).world.perform (.publish friend post)).world

/-- A post with a new identifier stored. -/
def stored (w : World) (post : Post) : World := { w with log := ⟨post :: w.log.posts, w.log.taken.insert post.id⟩ }

theorem byAuthors_stored (w : World) (post : Post) (authors : List UserId) :
    (w.stored post).log.byAuthors authors =
      if post.author ∈ authors then post :: w.log.byAuthors authors else w.log.byAuthors authors := by
  by_cases member : post.author ∈ authors <;> simp [stored, PostLog.byAuthors, member]

theorem sent_eq {w : World} (running : w.notifier.isClosed = false) (post : Post) (cap : Nat) (friend : UserId) :
    ∃ notifier, w.sent post cap friend = { w with cache := w.cache.push friend (.snapshot post) cap, notifier } ∧
      notifier.isClosed = false := by
  obtain ⟨notifier, -, world, still⟩ :=
    perform_publish (w := (w.perform (.push friend (.snapshot post) cap)).world) running friend post
  exact ⟨notifier, world, still⟩

theorem foldl_sent {w : World} (running : w.notifier.isClosed = false) (post : Post) (cap : Nat)
    (friends : List UserId) :
    ∃ notifier, friends.foldl (·.sent post cap) w =
      { w with cache := friends.foldl (·.push · (.snapshot post) cap) w.cache, notifier } ∧
      notifier.isClosed = false := by
  induction friends generalizing w with
  | nil => exact ⟨w.notifier, rfl, running⟩
  | cons friend friends ih =>
    obtain ⟨notifier, sent, still⟩ := sent_eq running post cap friend
    simp only [List.foldl_cons, sent]
    exact ih still

end World

namespace Service
variable (s : Service)

theorem run_friendsOf (user : UserId) (w : World) : (s.friendsOf user).run w = (.ok (w.graph.friendsOf user), w) := rfl

theorem run_deliver {w : World} (running : w.notifier.isClosed = false) (post : Post) (friend : UserId) :
    (s.deliver post (.snapshot post) friend).run w = (none, w.sent post s.capacity friend) := by
  obtain ⟨published, next, sent, still⟩ := Live.Notifier.publish_open running friend post
  simp only [deliver, Task.bind_eq, Task.callWithin, Task.bind, Task.run, Task.pure_eq, World.sent, World.perform, sent]
  cases published <;> rfl

theorem run_reach {w : World} (running : w.notifier.isClosed = false) (post : Post) (friends : List UserId) :
    (s.reach post (.snapshot post) friends).run w = (⟨friends, [], []⟩, friends.foldl (·.sent post s.capacity) w) := by
  induction friends generalizing w with
  | nil => rfl
  | cons friend friends ih =>
    obtain ⟨notifier, sent, still⟩ := World.sent_eq running post s.capacity friend
    have later := ih (w := w.sent post s.capacity friend) (by rw [sent]; exact still)
    simp only [reach, Task.bind_eq, Task.run_bind, run_deliver s running, Task.event, Task.run, Task.bind, Task.pure_eq,
      later, List.foldl_cons]

theorem run_fanout {w : World} (running : w.notifier.isClosed = false) (post : Post) (friends : List UserId) :
    (s.fanout post friends).run w =
      (.ok (.success (targets post friends)), (targets post friends).foldl (·.sent post s.capacity) w) := by
  simp only [fanout_eq, Task.bind_eq, Task.run_bind, run_reach s running]
  rfl

theorem run_spread {w : World} (running : w.notifier.isClosed = false) (author : UserId) (post : Post) :
    (s.spread author post).run w =
      (.ok post.id, (targets post (w.graph.friendsOf author)).foldl (·.sent post s.capacity) w) := by
  simp only [spread, Task.bind_eq, Task.run_bind, run_friendsOf, run_fanout s running]
  rfl

/-- The world after a post has been stored and sent to its author's friends. -/
def posted (w : World) (post : Post) : World :=
  (targets post (w.graph.friendsOf post.author)).foldl (·.sent post s.capacity) (w.stored post)

theorem run_createPost {w : World} (running : w.notifier.isClosed = false) (author : UserId) (post : Post) :
    (s.createPost author post).run w =
      if post.author ≠ author then (.error (mismatch author post), w)
      else if post.id ∈ w.log.taken then (.error (.duplicatePost post.id), w)
      else (.ok post.id, s.posted w post) := by
  unfold createPost
  by_cases other : post.author = author
  · subst other
    by_cases used : post.id ∈ w.log.taken
    · simp only [ne_eq, not_true_eq_false, if_false, within, Task.bind_eq, Task.callWithin, Task.bind, Task.run,
        World.perform, PostLog.append, used, if_true, Task.pure_eq]
      rfl
    · simp only [ne_eq, not_true_eq_false, if_false, within, Task.bind_eq, Task.callWithin, Task.bind, Task.run,
        World.perform, PostLog.append, used, Task.pure_eq, Task.event]
      exact run_spread s (w := w.stored post) running _ _
  · rw [if_pos other, if_pos other]; rfl

@[simp] theorem mem_targets {post : Post} {friends : List UserId} {user : UserId} :
    user ∈ targets post friends ↔ user ∈ friends ∧ user ≠ post.author := by
  simp [targets]

/-- A post goes to those whose friend its author is. -/
theorem target_iff {graph : FriendGraph} (built : graph.Built) {post : Post} {user : UserId} :
    user ∈ targets post (graph.friendsOf post.author) ↔ post.author ∈ graph.friendsOf user := by
  rw [mem_targets, built.symm]
  refine ⟨And.left, fun friend => ⟨friend, ?_⟩⟩
  rintro rfl
  exact built.irrefl _ friend

theorem posted_eq {w : World} (running : w.notifier.isClosed = false) (post : Post) :
    ∃ notifier, s.posted w post =
      { w with
        log := (w.stored post).log
        cache := (targets post (w.graph.friendsOf post.author)).foldl (·.push · (.snapshot post) s.capacity) w.cache
        notifier } ∧ notifier.isClosed = false :=
  World.foldl_sent (w := w.stored post) running post s.capacity _

end Service

/-- What is cut off anyway can be cut off before. -/
theorem take_append_take {α : Type} (xs ys : List α) (cap : Nat) :
    (xs ++ ys.take cap).take cap = (xs ++ ys).take cap := by
  rw [List.take_append, List.take_append, List.take_take, Nat.min_eq_left (Nat.sub_le ..)]

namespace FeedCache

theorem feed_put (cache : FeedCache) (user other : UserId) (entries : List FeedEntry) :
    (cache.put user entries).feed other = if other = user then entries else cache.feed other := by
  by_cases same : other = user <;> simp [feed, same]

theorem feed_prepend (cache : FeedCache) (user other : UserId) (entry : FeedEntry) :
    (cache.prepend user entry).feed other = if other = user then entry :: cache.feed user else cache.feed other :=
  feed_put ..

/-- A feed that is not there can be trimmed as well. -/
theorem feed_trim (cache : FeedCache) (user other : UserId) (cap : Nat) :
    (cache.trim user cap).feed other = if other = user then (cache.feed user).take cap else cache.feed other := by
  unfold trim
  cases there : cache.feed? user with
  | some entries =>
    have held : cache.feed user = entries := by simp [feed, there]
    simp only [feed_put, held]
  | none =>
    by_cases same : other = user
    · simp [feed, same, there]
    · simp [same]

theorem feed_rebuild (cache : FeedCache) (user other : UserId) (entries : List FeedEntry) (cap : Nat) :
    (cache.rebuild user entries cap).feed other = if other = user then entries.take cap else cache.feed other :=
  feed_put ..

theorem feed_push (cache : FeedCache) (user other : UserId) (entry : FeedEntry) (cap : Nat) :
    (cache.push user entry cap).feed other =
      if other = user then (entry :: cache.feed user).take cap else cache.feed other :=
  feed_put ..

theorem feed?_push (cache : FeedCache) (user other : UserId) (entry : FeedEntry) (cap : Nat) :
    (cache.push user entry cap).feed? other =
      if other = user then some ((entry :: cache.feed user).take cap) else cache.feed? other :=
  feed?_put ..

/-- One entry pushed to each of several users. -/
theorem feed?_foldl_push {users : List UserId} (distinct : users.Nodup) (cache : FeedCache) (entry : FeedEntry)
    (cap : Nat) (other : UserId) :
    (users.foldl (·.push · entry cap) cache).feed? other =
      if other ∈ users then some ((entry :: cache.feed other).take cap) else cache.feed? other := by
  induction users generalizing cache with
  | nil => simp
  | cons user users ih =>
    obtain ⟨fresh, distinct⟩ := List.nodup_cons.mp distinct
    rw [List.foldl_cons, ih distinct]
    by_cases same : other = user
    · subst same; simp [fresh, feed?_push]
    · simp [same, feed_push, feed?_push]

end FeedCache
end FeedFanout
