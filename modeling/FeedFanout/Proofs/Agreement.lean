import FeedFanout.Proofs.Posting
import FeedFanout.Proofs.Reading
import FeedFanout.Proofs.Warming
import Mathlib.Logic.Relation

/-!
Agreement of the cache with the store. While friendships do not change and nothing fails, posting, warming and reading,
one operation after the other, keep every feed at the snapshots of the newest posts of the user's friends, as many as a
feed holds (`Kept.acts`). Then the cache and the store answer every request alike (`pages_agree`).
-/
namespace FeedFanout

/-- A whole operation without faults. -/
inductive Acts (s : Service) (wm : Warmer) (w w' : World) : Prop
  | create {author : UserId} {post : Post} {answer : Except FeedError PostId}
      (ends : (s.createPost author post).Ends World.Serves w answer w')
  | warmUser {user : UserId} {answer : Except WarmError Unit} (ends : (wm.warmUser user).Ends World.Serves w answer w')
  | warmAll {answer : Except WarmError WarmReport} (ends : Plan.Ends World.Serves wm wm.warmAll w answer w')
  | read {user : UserId} {window : Window} {answer : Except FeedError FeedPage}
      (ends : (s.feedPage user window).Ends World.Serves w answer w')

/-- How it can begin, and for which users: without posts and feeds, for all of them, or with any posts and feeds and a
run over all known users that reports no failure, for these. -/
inductive Begun (wm : Warmer) : World → (UserId → Prop) → Prop
  | empty {w : World} (built : w.graph.Built) (running : w.notifier.isClosed = false) (unwritten : w.log = .empty)
      (unread : w.cache = .empty) : Begun wm w fun _ => True
  | warmed {w w' : World} {report : WarmReport} (built : w.graph.Built) (running : w.notifier.isClosed = false)
      (ends : Plan.Ends World.Suffers wm wm.warmAll w (.ok report) w') (clean : report.isClean) :
      Begun wm w' (· ∈ w.graph.users)

/-- The newest posts of a user's friends, as many as a feed holds. -/
def Service.newest (s : Service) (w : World) (user : UserId) : List Post :=
  (w.log.query (w.graph.friendsOf user) .all).take s.capacity

theorem Service.newest_posted {s : Service} {w : World} (running : w.notifier.isClosed = false) (post : Post)
    (user : UserId) :
    s.newest (s.posted w post) user =
      if post.author ∈ w.graph.friendsOf user then (post :: s.newest w user).take s.capacity else s.newest w user := by
  obtain ⟨notifier, posted, -⟩ := s.posted_eq running post
  simp only [newest, PostLog.query, Window.select_all, posted, World.byAuthors_stored]
  by_cases friend : post.author ∈ w.graph.friendsOf user
  · rw [if_pos friend, if_pos friend]
    exact (take_append_take [post] _ s.capacity).symm
  · rw [if_neg friend, if_neg friend]

/-- The feeds of these users hold what they should. A feed that is not there counts as empty. -/
structure Kept (s : Service) (covered : UserId → Prop) (w : World) : Prop where
  built : w.graph.Built
  running : w.notifier.isClosed = false
  held : ∀ user, covered user → w.cache.feed user = (s.newest w user).map .snapshot

namespace Kept
variable {s : Service} {wm : Warmer} {covered : UserId → Prop} {w w' : World}

theorem feed_posted (kept : Kept s covered w) (post : Post) {user : UserId} (member : covered user) :
    (s.posted w post).cache.feed user = (s.newest (s.posted w post) user).map .snapshot := by
  have before := kept.held user member
  have distinct : (Service.targets post (w.graph.friendsOf post.author)).Nodup :=
    (w.graph.nodup_friendsOf post.author).filter _
  obtain ⟨notifier, posted, -⟩ := s.posted_eq kept.running post
  rw [Service.newest_posted kept.running, posted, FeedCache.feed, FeedCache.feed?_foldl_push distinct]
  simp only [Service.target_iff kept.built]
  by_cases friend : post.author ∈ w.graph.friendsOf user
  · rw [if_pos friend, if_pos friend, Option.getD_some, before, List.map_take, List.map_cons]
  · rw [if_neg friend, if_neg friend]
    exact before

theorem fresh_eq (same : wm.capacity = s.capacity) (bounded : s.capacity ≤ Window.largest) (w : World) (user : UserId) :
    wm.fresh w user = (s.newest w user).map .snapshot := by
  have all : min s.capacity Window.largest = s.capacity := Nat.min_eq_left bounded
  simp [Warmer.fresh, Service.newest, PostLog.query, Warmer.select_window, same, all, List.take_take]

/-- Feeds that were rebuilt, if they changed at all. -/
theorem rebuilt (same : wm.capacity = s.capacity) (bounded : s.capacity ≤ Window.largest) (kept : Kept s covered w)
    {cache : FeedCache}
    (fresh : ∀ user, cache.feed? user = some (wm.fresh w user) ∨ cache.feed? user = w.cache.feed? user) :
    Kept s covered { w with cache } := by
  refine ⟨kept.built, kept.running, ?_⟩
  intro user member
  obtain renewed | old := fresh user
  · rw [FeedCache.feed, renewed, Option.getD_some, fresh_eq same bounded]
    rfl
  · rw [FeedCache.feed, old]
    exact kept.held user member

theorem acts (same : wm.capacity = s.capacity) (bounded : s.capacity ≤ Window.largest) (kept : Kept s covered w)
    (acts : Acts s wm w w') : Kept s covered w' := by
  cases acts with
  | @create author post answer ends =>
    have ran := Task.ends_serves_iff.mp ends
    rw [s.run_createPost kept.running] at ran
    split at ran
    · cases ran; exact kept
    · split at ran
      · cases ran; exact kept
      · cases ran
        obtain ⟨notifier, posted, still⟩ := s.posted_eq kept.running post
        refine ⟨?_, ?_, fun user member => kept.feed_posted post member⟩
        · rw [posted]; exact kept.built
        · rw [posted]; exact still
  | @warmUser user answer ends =>
    have ran := Task.ends_serves_iff.mp ends
    rw [wm.run_warmUser] at ran
    cases ran
    refine kept.rebuilt same bounded ?_
    intro other
    by_cases mine : other = user
    · subst mine; left; simp [FeedCache.rebuild, Warmer.fresh]
    · right; simp [FeedCache.rebuild, mine]
  | warmAll ends =>
    obtain ⟨⟨cache, rfl⟩, fresh, -⟩ := Warmer.ends_warmAll (ends.mono World.Serves.suffers)
    exact kept.rebuilt same bounded fresh
  | read ends =>
    have ran := Task.ends_serves_iff.mp ends
    rw [s.run_feedPage] at ran
    cases ran
    exact kept

theorem begun (same : wm.capacity = s.capacity) (bounded : s.capacity ≤ Window.largest) (begun : Begun wm w covered) :
    Kept s covered w := by
  cases begun with
  | empty built running unwritten unread =>
    refine ⟨built, running, ?_⟩
    intro user _
    simp [Service.newest, unwritten, unread, PostLog.query, PostLog.byAuthors, PostLog.empty, FeedCache.empty,
      FeedCache.feed, FeedCache.feed?]
  | warmed built running ends clean =>
    obtain ⟨⟨cache, rfl⟩, -, warmed⟩ := Warmer.ends_warmAll ends
    refine ⟨built, running, ?_⟩
    intro user listed
    rw [FeedCache.feed, warmed _ rfl clean user listed, Option.getD_some, fresh_eq same bounded]
    rfl

end Kept

/-- Where a page comes from without faults. -/
def Service.origin (s : Service) (w : World) (user : UserId) (window : Window) : Source :=
  if window.fits s.capacity && w.cache.has user then .cache else .store

/-- Cache and store agree after every sequence of operations. -/
theorem pages_agree {s : Service} {wm : Warmer} (same : wm.capacity = s.capacity)
    (bounded : s.capacity ≤ Window.largest) {covered : UserId → Prop} {w w' : World} (begun : Begun wm w covered)
    (acts : Relation.ReflTransGen (Acts s wm) w w') {user : UserId} (member : covered user) :
    (∀ feed, w'.cache.feed? user = some feed →
      feed = ((w'.log.query (w'.graph.friendsOf user) .all).take s.capacity).map .snapshot) ∧
    ∀ window, (s.feedPage user window).run w' =
      (.ok ⟨w'.log.query (w'.graph.friendsOf user) window, s.origin w' user window⟩, w') := by
  have kept : Kept s covered w' := by
    induction acts with
    | refl => exact .begun same bounded begun
    | tail _ last ih => exact ih.acts same bounded last
  have held := kept.held user member
  constructor
  · intro feed there
    rwa [FeedCache.feed, there, Option.getD_some] at held
  · intro window
    by_cases cached : window.fits s.capacity = true ∧ w'.cache.has user = true
    · obtain ⟨fits, has⟩ := cached
      obtain ⟨feed, there⟩ := Option.isSome_iff_exists.mp has
      have filled : w'.cache.feed? user = some ((s.newest w' user).map .snapshot) := by
        rw [there, ← held, FeedCache.feed, there, Option.getD_some]
      rw [s.feedPage_cached filled fits, Service.origin, fits, has]
      rfl
    · rw [s.run_feedPage, if_neg cached, Service.origin, if_neg (by simpa using cached)]

/-- A feed that cannot be decoded, before a run over all users and a post. -/
theorem pages_agree_warmed :
    let s : Service := { capacity := 2 }
    let older : Post := ⟨.ofNat 1, .ofNat 8, "a"⟩
    let newer : Post := ⟨.ofNat 2, .ofNat 8, "b"⟩
    let graph := FriendGraph.empty.addFriendship (.ofNat 7) (.ofNat 8)
    let w : World := { World.empty 1 .ofNat with
      graph, log := ⟨[older], .ofList [older.id]⟩, cache := FeedCache.empty.put (.ofNat 7) [⟨⟨#[0]⟩⟩] }
    let w' := ((s.createPost (.ofNat 8) newer).run (Warmer.warmed ⟨2, 1⟩ graph.users w)).2
    Begun ⟨2, 1⟩ (Warmer.warmed ⟨2, 1⟩ graph.users w) (· ∈ graph.users) ∧
      Acts s ⟨2, 1⟩ (Warmer.warmed ⟨2, 1⟩ graph.users w) w' ∧
      (s.feedPage (.ofNat 7) (.of 1 0)).run w' = (.ok ⟨[newer], .cache⟩, w') := by
  intro s older newer graph w w'
  have begun : Begun ⟨2, 1⟩ (Warmer.warmed ⟨2, 1⟩ graph.users w) (· ∈ graph.users) :=
    .warmed (.addFriendship (.ofNat 7) (.ofNat 8) .empty) rfl ((Warmer.warmAll_ends _ w).mono World.Serves.suffers) rfl
  have acts : Acts s ⟨2, 1⟩ (Warmer.warmed ⟨2, 1⟩ graph.users w) w' := .create (Task.ends_run ..)
  have listed : .ofNat 7 ∈ graph.users := by decide
  have page := (pages_agree rfl (by decide) begun (.single acts) listed).2 (.of 1 0)
  have posts : w'.log.query (w'.graph.friendsOf (.ofNat 7)) (.of 1 0) = [newer] := by decide +kernel
  have source : s.origin w' (.ofNat 7) (.of 1 0) = .cache := by decide +kernel
  rw [posts, source] at page
  exact ⟨begun, acts, page⟩

end FeedFanout
