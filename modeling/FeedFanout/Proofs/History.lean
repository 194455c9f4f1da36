import FeedFanout.Proofs.Reading
import FeedFanout.Proofs.Traces
import Mathlib.Data.List.Nodup

/-!
Histories in which friendships come late and posts go straight to the store. A feed comes into being with the first
post that its user receives, and from then on it shows what they have received, whatever else the store holds. So cache
and store agree on every window of the cache if and only if the user has received nothing, or everything within the
reach of such windows (`Reached.pages_of_history`).
-/
namespace FeedFanout

/-- What is done between whole operations or by them, one after the other. -/
inductive Deed
  | addUser (user : UserId)
  | befriend (a b : UserId)
  | append (post : Post)
  | create (author : UserId) (post : Post)

namespace Deed
variable (s : Service)

/-- The world after a deed without faults. -/
def does (w : World) : Deed → World
  | addUser user => { w with graph := w.graph.addUser user }
  | befriend a b => { w with graph := w.graph.addFriendship a b }
  | append post => (w.perform (.append post)).world
  | create author post => ((s.createPost author post).run w).2

/-- The post that a user receives: a friend's, created now. -/
def brings (w : World) (user : UserId) : Deed → Option Post
  | create author post =>
    if post.author = author ∧ post.id ∉ w.log.taken ∧ post.author ∈ w.graph.friendsOf user then some post else none
  | _ => none

end Deed

/-- The worlds that come of deeds, one after the other, with what a user has received so far, newest first. -/
inductive Reached (s : Service) (user : UserId) : World → List Post → Prop
  | empty (channelCapacity : Nat) (supply : Nat → PostId) : Reached s user (World.empty channelCapacity supply) []
  | deed {w : World} {received : List Post} (reached : Reached s user w received) (deed : Deed) :
      Reached s user (deed.does s w) ((deed.brings w user).toList ++ received)

/-- The feed of a user holds what they have received, friends' posts among others in the store. -/
structure Fed (s : Service) (w : World) (user : UserId) (received : List Post) : Prop where
  built : w.graph.Built
  running : w.notifier.isClosed = false
  exact : w.log.Exact
  held : w.cache.feed? user = if received = [] then none else some ((received.take s.capacity).map .snapshot)
  stored : received.Sublist (w.log.byAuthors (w.graph.friendsOf user))

namespace Fed
variable {s : Service} {w : World} {user : UserId} {received : List Post}

theorem byAuthors_sublist (log : PostLog) {some more : List UserId} (fewer : ∀ author ∈ some, author ∈ more) :
    (log.byAuthors some).Sublist (log.byAuthors more) := by
  refine List.monotone_filter_right _ ?_
  intro post member
  simpa using fewer _ (by simpa using member)

theorem feed_eq (fed : Fed s w user received) : w.cache.feed user = (received.take s.capacity).map .snapshot := by
  rw [FeedCache.feed, fed.held]
  by_cases nothing : received = []
  · simp [nothing]
  · simp [nothing]

theorem posted (fed : Fed s w user received) {post : Post} (fresh : post.id ∉ w.log.taken) :
    Fed s (s.posted w post) user (((Deed.create post.author post).brings w user).toList ++ received) := by
  obtain ⟨notifier, posted, still⟩ := s.posted_eq fed.running post
  have distinct : (Service.targets post (w.graph.friendsOf post.author)).Nodup :=
    (w.graph.nodup_friendsOf post.author).filter _
  rw [posted]
  by_cases friend : post.author ∈ w.graph.friendsOf user
  · have brought : ((Deed.create post.author post).brings w user).toList = [post] := by
      simp [Deed.brings, fresh, friend]
    rw [brought]
    refine ⟨fed.built, still, World.exact_stored fed.exact fresh, ?_, ?_⟩
    · rw [FeedCache.feed?_foldl_push distinct, if_pos ((Service.target_iff fed.built).mpr friend), if_neg (by simp),
        fed.feed_eq, ← List.map_cons, ← List.map_take]
      exact congrArg (fun posts => some (posts.map FeedEntry.snapshot)) (take_append_take [post] received s.capacity)
    · rw [World.byAuthors_stored, if_pos friend]
      exact fed.stored.cons_cons post
  · have brought : ((Deed.create post.author post).brings w user).toList = [] := by simp [Deed.brings, friend]
    rw [brought]
    refine ⟨fed.built, still, World.exact_stored fed.exact fresh, ?_, ?_⟩
    · rw [FeedCache.feed?_foldl_push distinct, if_neg fun target => friend ((Service.target_iff fed.built).mp target)]
      exact fed.held
    · rw [World.byAuthors_stored, if_neg friend]
      exact fed.stored

theorem does (fed : Fed s w user received) (deed : Deed) :
    Fed s (deed.does s w) user ((deed.brings w user).toList ++ received) := by
  cases deed with
  | addUser other =>
    refine ⟨.addUser other fed.built, fed.running, fed.exact, fed.held, ?_⟩
    simpa [Deed.does, Deed.brings] using fed.stored
  | befriend a b =>
    refine ⟨.addFriendship a b fed.built, fed.running, fed.exact, fed.held, ?_⟩
    refine fed.stored.trans (byAuthors_sublist _ ?_)
    intro author friend
    exact (FriendGraph.mem_friendsOf_addFriendship ..).mpr (.inr friend)
  | append post =>
    change Fed s (w.perform (.append post)).world user received
    rw [World.perform_append]
    by_cases used : post.id ∈ w.log.taken
    · rw [if_pos used]
      exact fed
    · rw [if_neg used]
      refine ⟨fed.built, fed.running, World.exact_stored fed.exact used, fed.held, ?_⟩
      rw [World.byAuthors_stored]
      split
      · exact fed.stored.cons post
      · exact fed.stored
  | create author post =>
    rw [Deed.does, s.run_createPost fed.running]
    by_cases other : post.author = author
    · subst other
      by_cases used : post.id ∈ w.log.taken
      · simpa [Deed.brings, used] using fed
      · rw [if_neg (by simp), if_neg used]
        exact fed.posted used
    · simpa [Deed.brings, other] using fed

theorem of_reached (reached : Reached s user w received) : Fed s w user received := by
  induction reached with
  | empty channelCapacity supply => exact ⟨.empty, rfl, .empty, rfl, .slnil⟩
  | deed reached deed ih => exact ih.does deed

theorem page (fed : Fed s w user received) {window : Window} (fits : window.fits s.capacity = true) :
    (s.feedPage user window).run w =
      (.ok (if received = [] then ⟨w.log.query (w.graph.friendsOf user) window, .store⟩ else
        ⟨window.select received, .cache⟩), w) := by
  by_cases nothing : received = []
  · rw [s.feedPage_absent (by rw [fed.held, if_pos nothing]), if_pos nothing]
  · rw [s.feedPage_cached (by rw [fed.held, if_neg nothing]) fits, if_neg nothing]

end Fed

/-- How many posts of a feed the windows of the cache can reach. -/
def Service.depth (s : Service) : Nat := min (s.capacity - 1) (2 * Window.largest)

/-- Two lists look alike through all windows of the cache if they begin alike. -/
theorem select_iff_take {α : Type} (s : Service) (xs ys : List α) :
    (∀ window : Window, window.fits s.capacity = true → window.select xs = window.select ys) ↔
      xs.take s.depth = ys.take s.depth := by
  constructor
  · intro alike
    refine List.ext_getElem? ?_
    intro p
    rw [List.getElem?_take, List.getElem?_take]
    by_cases reached : p < s.depth
    · rw [if_pos reached, if_pos reached]
      have small : p + 1 < s.capacity ∧ p < 2 * Window.largest := by unfold Service.depth at reached; omega
      -- The window that ends right behind the position.
      let window : Window := .of ⟨p - min p Window.largest + 1, by simp only [Window.largest] at *; omega⟩
        ⟨min p Window.largest, by simp only [Window.largest]; omega⟩
      have seen (zs : List α) : (window.select zs)[p - min p Window.largest]? = zs[p]? := by
        change ((zs.drop (min p Window.largest)).take (p - min p Window.largest + 1))[p - min p Window.largest]? = _
        rw [List.getElem?_take_of_lt (by omega), List.getElem?_drop, Nat.add_sub_cancel' (Nat.min_le_left ..)]
      have fits : window.fits s.capacity = true :=
        Window.fits_iff.mpr ⟨_, rfl, show min p Window.largest + (p - min p Window.largest + 1) < s.capacity by omega⟩
      rw [← seen xs, ← seen ys, alike window fits]
    · rw [if_neg reached, if_neg reached]
  · intro alike window fits
    obtain ⟨limit, bounded, inside⟩ := Window.fits_iff.mp fits
    have reach : window.start + limit.val ≤ s.depth := by
      have start := window.start_le
      have size := limit.isLt
      simp only [Service.depth, Window.largest] at *
      omega
    rw [← Window.select_take bounded reach xs, alike, Window.select_take bounded reach]

/-- The start of a list without repetitions is in a part of it only if the part begins so. -/
theorem take_eq_of_sublist {α : Type} {part whole : List α} (sub : part.Sublist whole) (distinct : whole.Nodup)
    (n : Nat) : part.take n = whole.take n ↔ ∀ x ∈ whole.take n, x ∈ part := by
  constructor
  · intro same x member
    exact List.mem_of_mem_take (same ▸ member)
  · intro all
    induction sub generalizing n with
    | slnil => rfl
    | @cons part whole x sub ih =>
      cases n with
      | zero => rfl
      | succ n =>
        have inside := sub.subset (all x (by simp))
        exact absurd inside (List.nodup_cons.mp distinct).1
    | @cons_cons part whole x sub ih =>
      obtain ⟨fresh, distinct⟩ := List.nodup_cons.mp distinct
      cases n with
      | zero => rfl
      | succ n =>
        rw [List.take_succ_cons, List.take_succ_cons, ih distinct n]
        intro y member
        rcases List.mem_cons.mp (all y (List.mem_cons_of_mem _ member)) with rfl | inside
        · exact absurd (List.mem_of_mem_take member) fresh
        · exact inside

namespace Reached
variable {s : Service} {user : UserId} {w : World} {received : List Post}

/-- A user who has received nothing reads from the store, and anybody else, through windows of the cache, reads what
they have received. These are friends' posts in the store, but all that windows of the cache can reach only if
everything within their reach has been received. -/
theorem pages_of_history (reached : Reached s user w received) :
    (∀ window : Window, window.fits s.capacity = true → (s.feedPage user window).run w =
      (.ok (if received = [] then ⟨w.log.query (w.graph.friendsOf user) window, .store⟩ else
        ⟨window.select received, .cache⟩), w)) ∧
    received.Sublist (w.log.byAuthors (w.graph.friendsOf user)) ∧
    ((∀ window : Window, window.fits s.capacity = true →
        ∃ source, (s.feedPage user window).run w = (.ok ⟨w.log.query (w.graph.friendsOf user) window, source⟩, w)) ↔
      received = [] ∨ ∀ post ∈ (w.log.byAuthors (w.graph.friendsOf user)).take s.depth, post ∈ received) := by
  have fed : Fed s w user received := .of_reached reached
  refine ⟨fun window fits => fed.page fits, fed.stored, ?_⟩
  by_cases nothing : received = []
  · refine ⟨fun _ => .inl nothing, fun _ window fits => ⟨.store, ?_⟩⟩
    rw [fed.page fits, if_pos nothing]
  · have distinct : (w.log.byAuthors (w.graph.friendsOf user)).Nodup :=
      (List.Nodup.of_map _ fed.exact.distinct).filter _
    rw [← take_eq_of_sublist fed.stored distinct, ← select_iff_take, or_iff_right nothing]
    refine forall₂_congr ?_
    intro window fits
    rw [fed.page fits, if_neg nothing]
    constructor
    · rintro ⟨source, same⟩
      simp only [Prod.mk.injEq, Except.ok.injEq, FeedPage.mk.injEq] at same
      exact same.1.1
    · intro same
      exact ⟨.cache, by rw [same]; rfl⟩

/-- User 8 posts before and after becoming a friend of user 7. -/
def late : World :=
  let s : Service := { capacity := 4 }
  let first := (Deed.append ⟨.ofNat 1, .ofNat 8, "a"⟩).does s (World.empty 1 .ofNat)
  let friends := (Deed.befriend (.ofNat 7) (.ofNat 8)).does s first
  (Deed.create (.ofNat 8) ⟨.ofNat 2, .ofNat 8, "b"⟩).does s friends

theorem reached_late : Reached { capacity := 4 } (.ofNat 7) late [⟨.ofNat 2, .ofNat 8, "b"⟩] :=
  (((Reached.empty 1 .ofNat).deed (.append _)).deed (.befriend _ _)).deed (.create _ _)

/-- A feed hides the older posts of a late friend. -/
theorem hides_older :
    ¬∀ (s : Service) (user : UserId) (w : World) (received : List Post) (window : Window),
      Reached s user w received → window.fits s.capacity = true →
      ∃ source, (s.feedPage user window).run w = (.ok ⟨w.log.query (w.graph.friendsOf user) window, source⟩, w) := by
  intro agrees
  have fits : (Window.of 2 0).fits 4 = true := by decide
  obtain ⟨source, same⟩ := agrees { capacity := 4 } (.ofNat 7) late _ (.of 2 0) reached_late fits
  rw [(Fed.of_reached reached_late).page fits, if_neg (by simp)] at same
  simp only [Prod.mk.injEq, Except.ok.injEq, FeedPage.mk.injEq] at same
  exact absurd same.1.1 (by decide +kernel)

theorem pages_of_late : (Service.feedPage { capacity := 4 } (.ofNat 7) (.of 2 0)).run late =
    (.ok ⟨[⟨.ofNat 2, .ofNat 8, "b"⟩], .cache⟩, late) := by
  rw [(pages_of_history reached_late).1 (.of 2 0) (by decide), if_neg (by simp)]
  rfl

end Reached
end FeedFanout
