import FeedFanout.Proofs.LastRebuild
import Mathlib.Data.List.Nodup
import Mathlib.Data.List.Perm.Subperm

/-!
What feeds show when posting and warming go on beside each other. There is no lock over a rebuild or a post's creation,
so that a post can be shown twice (`Overlap.twice_iff`) or not at all (`Overlap.shown_iff`). Both depend on where the
last rebuild of the feed falls between the calls of the creation.
-/
namespace FeedFanout

/-- Where two lists have at most one element of a kind each, their cut concatenation has at most two. -/
theorem two_le_countP_append {α : Type} {good : α → Bool} {xs ys : List α} (left : xs.countP good ≤ 1)
    (right : ys.countP good ≤ 1) (cap : Nat) :
    ((xs ++ ys).take cap).countP good ≤ 2 ∧ (2 ≤ ((xs ++ ys).take cap).countP good ↔
      (∃ x ∈ xs, good x) ∧ ∃ y ∈ ys.take (cap - xs.length), good y) := by
  have first : (xs.take cap).countP good ≤ xs.countP good := (List.take_sublist ..).countP_le
  have second : (ys.take (cap - xs.length)).countP good ≤ ys.countP good := (List.take_sublist ..).countP_le
  rw [List.take_append, List.countP_append, ← List.one_le_countP_iff, ← List.one_le_countP_iff]
  refine ⟨by omega, fun both => by omega, ?_⟩
  rintro ⟨one, more⟩
  have room : xs.length ≤ cap := by
    by_contra full
    rw [Nat.sub_eq_zero_of_le (by omega), List.take_zero] at more
    simp at more
  rw [List.take_of_length_le room]
  omega

namespace Overlap
variable {s : Service} {wm : Warmer} {activities : List Activity} {w : World} {trace : List (Nat × Made)}
  {c : Crowd Outcome}

/-- Pushed entries are snapshots of posts in the store. -/
theorem of_mem_pushedIn (overlap : Overlap s wm activities w trace c) {user : UserId} {entry : FeedEntry}
    (member : entry ∈ pushedIn user trace) :
    ∃ author post, .create author post ∈ activities ∧ entry = .snapshot post ∧ post ∈ storedIn trace := by
  obtain ⟨⟨i, made⟩, inside, pushed⟩ := List.mem_filterMap.mp (List.mem_reverse.mp member)
  obtain ⟨author, post, listed, snapshot, stored, -⟩ := overlap.pushed inside pushed
  exact ⟨author, post, List.mem_of_getElem? listed, snapshot,
    List.mem_reverse.mpr (List.mem_filterMap.mpr ⟨_, stored, rfl⟩)⟩

/-- Posts in the store do not share an identifier. -/
theorem eq_of_id (overlap : Overlap s wm activities w trace c) {first second : Post} (left : first ∈ storedIn trace)
    (right : second ∈ storedIn trace) (same : first.id = second.id) : first = second := by
  have distinct := overlap.exact.distinct
  rw [overlap.posts] at distinct
  exact List.inj_on_of_nodup_map distinct left right same

/-- The store hands out no two posts with the same identifier. -/
theorem offered_once (overlap : Overlap s wm activities w trace c) {user : UserId} {before after : List (Nat × Made)}
    (last : LastRebuild user trace before after) (id : PostId) :
    ((offered w user before).map FeedEntry.snapshot).countP (·.shows id) ≤ 1 := by
  have distinct := overlap.exact.distinct
  rw [overlap.posts] at distinct
  have fewer : (offered w user before).Sublist (storedIn trace) := (offered_sublist ..).trans last.storedIn
  have once := List.nodup_iff_count.mp (distinct.sublist (fewer.map _)) id
  rw [List.count_eq_countP, List.countP_map] at once
  rw [List.countP_map]
  refine (List.countP_mono_left ?_).trans once
  intro post _ shows
  simpa using shows

/-! ### Twice -/

theorem twice_rebuilt (overlap : Overlap s wm activities w trace c) (alike : wm.capacity = s.capacity) {user : UserId}
    {before after : List (Nat × Made)} (last : LastRebuild user trace before after) (id : PostId) :
    (c.world.cache.feed user).countP (·.shows id) ≤ 2 ∧
      (2 ≤ (c.world.cache.feed user).countP (·.shows id) ↔ ∃ post, post.id = id ∧
        .snapshot post ∈ pushedIn user after ∧
        post ∈ (offered w user before).take (s.capacity - (pushedIn user after).length)) := by
  have once : (pushedIn user after).countP (·.shows id) ≤ 1 :=
    last.pushedIn.countP_le.trans (overlap.pushed_once user id)
  have twice := two_le_countP_append once (overlap.offered_once last id) s.capacity
  rw [← List.map_take] at twice
  rw [overlap.feed_rebuilt alike last]
  refine ⟨twice.1, twice.2.trans ⟨?_, ?_⟩⟩
  · rintro ⟨⟨entry, pushed, shows⟩, copy, shown, copies⟩
    obtain ⟨author, post, -, rfl, stored⟩ := overlap.of_mem_pushedIn (last.pushedIn.subset pushed)
    obtain ⟨other, taken, rfl⟩ := List.mem_map.mp shown
    have same : post.id = id := by simpa using shows
    have same' : other.id = id := by simpa using copies
    have there : other ∈ storedIn trace :=
      last.storedIn.subset ((offered_sublist ..).subset (List.mem_of_mem_take taken))
    obtain rfl := overlap.eq_of_id stored there (same.trans same'.symm)
    exact ⟨post, same, pushed, taken⟩
  · rintro ⟨post, same, pushed, shown⟩
    exact ⟨⟨_, pushed, by simpa using same⟩, _, List.mem_map_of_mem shown, by simpa using same⟩

/-- A feed shows a post twice at most, and twice only if the last rebuild took it from the store and it was pushed
afterwards. -/
theorem twice_iff (overlap : Overlap s wm activities w trace c) (alike : wm.capacity = s.capacity) (user : UserId)
    (id : PostId) :
    (c.world.cache.feed user).countP (·.shows id) ≤ 2 ∧
      (2 ≤ (c.world.cache.feed user).countP (·.shows id) ↔
        ∃ before after, LastRebuild user trace before after ∧ ∃ post, post.id = id ∧
          .snapshot post ∈ pushedIn user after ∧
          post ∈ (offered w user before).take (s.capacity - (pushedIn user after).length)) := by
  by_cases rebuilt : ∃ step ∈ trace, step.2.Rebuilds user
  · obtain ⟨before, after, last⟩ := overlap.last_rebuild rebuilt
    obtain ⟨most, twice⟩ := overlap.twice_rebuilt alike last id
    refine ⟨most, fun shown => ⟨before, after, last, twice.mp shown⟩, ?_⟩
    rintro ⟨before, after, last, shown⟩
    exact (overlap.twice_rebuilt alike last id).2.mpr shown
  · have once : (c.world.cache.feed user).countP (·.shows id) ≤ 1 := by
      rw [overlap.feed_pushed alike fun step member rebuilds => rebuilt ⟨step, member, rebuilds⟩]
      exact ((List.take_sublist ..).countP_le).trans (overlap.pushed_once user id)
    refine ⟨by omega, fun twice => by omega, ?_⟩
    rintro ⟨before, after, last, -⟩
    exact absurd last.rebuilds rebuilt

/-- Users 7 and 8 are friends. -/
def pair : World := { World.empty 1 .ofNat with graph := FriendGraph.empty.addFriendship (.ofNat 7) (.ofNat 8) }

/-- A post by user 8. -/
def note : Post := ⟨.ofNat 1, .ofNat 8, "a"⟩

/-- User 8 posts while the feed of user 7 is rebuilt. -/
def both : List Activity := [.create (.ofNat 8) note, .warm (.ofNat 7)]

/-- The calls in the order of a schedule. -/
def scheduled (schedule : List Nat) : List (Nat × Made) × Crowd Outcome :=
  Crowd.follow ⟨both.map (·.task { capacity := 4 } ⟨4, 1⟩), pair⟩ schedule

theorem of_schedule (schedule : List Nat) :
    Overlap { capacity := 4 } ⟨4, 1⟩ both pair (scheduled schedule).1 (scheduled schedule).2 :=
  ⟨.addFriendship (.ofNat 7) (.ofNat 8) .empty, rfl, rfl, Crowd.Runs.start.follow schedule⟩

/-- The rebuild comes between the storing of the post and its push. -/
def between : List (Nat × Made) × Crowd Outcome := scheduled [0, 0, 0, 1, 1, 1, 0]

theorem overlap_between : Overlap { capacity := 4 } ⟨4, 1⟩ both pair between.1 between.2 := of_schedule _

theorem feed_between : between.2.world.cache.feed (.ofNat 7) = [.snapshot note, .snapshot note] := by
  have copies : (between.2.world.cache.feed (.ofNat 7)).map Except.ok = [FeedEntry.encode note, FeedEntry.encode note] :=
    rfl
  simpa [List.map_eq_cons_iff] using copies

/-- Without a lock a post can be shown twice. -/
theorem shown_twice :
    ¬∀ (s : Service) (wm : Warmer) (activities : List Activity) (w : World) (trace : List (Nat × Made))
      (c : Crowd Outcome) (user : UserId) (id : PostId), wm.capacity = s.capacity → w.notifier.isClosed = false →
      Overlap s wm activities w trace c → (c.world.cache.feed user).countP (·.shows id) ≤ 1 := by
  intro once
  have few := once _ _ _ _ _ _ (.ofNat 7) note.id rfl rfl overlap_between
  rw [feed_between] at few
  simp at few

theorem twice_iff_between : ∃ before after, LastRebuild (.ofNat 7) between.1 before after ∧ ∃ post, post.id = note.id ∧
    .snapshot post ∈ pushedIn (.ofNat 7) after ∧
    post ∈ (offered pair (.ofNat 7) before).take (4 - (pushedIn (.ofNat 7) after).length) := by
  refine (twice_iff overlap_between rfl (.ofNat 7) note.id).2.mp ?_
  rw [feed_between]
  simp

/-! ### Not at all -/

/-- All operations have succeeded. -/
def Succeeded (c : Crowd Outcome) : Prop := ∀ t ∈ c.tasks, ∃ outcome, t = .done outcome ∧ outcome.IsOk

/-- A user gets no more pushes than there are posts. -/
theorem length_pushedIn (overlap : Overlap s wm activities w trace c) (user : UserId) :
    (pushedIn user trace).length ≤ (activities.filterMap Activity.post?).length := by
  have distinct : (pushedIn user trace).Nodup := by
    refine List.nodup_iff_count.mpr ?_
    intro entry
    by_cases member : entry ∈ pushedIn user trace
    · obtain ⟨author, post, -, rfl, -⟩ := overlap.of_mem_pushedIn member
      refine (List.countP_mono_left ?_).trans (overlap.pushed_once user post.id)
      intro other _ same
      obtain rfl : other = _ := by simpa using same
      simp
    · rw [List.count_eq_zero.mpr member]
      exact Nat.zero_le 1
  have among : pushedIn user trace ⊆ (activities.filterMap Activity.post?).map FeedEntry.snapshot := by
    intro entry member
    obtain ⟨author, post, listed, rfl, -⟩ := overlap.of_mem_pushedIn member
    exact List.mem_map_of_mem (List.mem_filterMap.mpr ⟨_, listed, rfl⟩)
  simpa using (List.subperm_of_subset distinct among).length_le

/-- A post that was stored is pushed to every friend before its operation succeeds. -/
theorem mem_pushedIn (overlap : Overlap s wm activities w trace c) (succeeded : Succeeded c) {user : UserId}
    {post : Post} (stored : post ∈ c.world.log.posts) (friend : post.author ∈ w.graph.friendsOf user) :
    .snapshot post ∈ pushedIn user trace := by
  rw [overlap.posts] at stored
  obtain ⟨⟨i, made⟩, member, appended⟩ := List.mem_filterMap.mp (List.mem_reverse.mp stored)
  obtain ⟨author, listed⟩ := overlap.author member appended
  obtain ⟨rest, held, goes⟩ :=
    overlap.runs.goes (i := i) (t := (Activity.create author post).task s wm) (by simp [listed])
  obtain ⟨outcome, rfl, ok⟩ := succeeded rest (List.mem_of_getElem? held)
  obtain ⟨friends, later, calls, whole⟩ := Activity.created goes ok
  have known : (i, ⟨.friendsOf post.author, some (.ok friends)⟩) ∈ trace := mem_own.mp (by simp [calls])
  obtain rfl := overlap.friends known
  have target : user ∈ pushedUsers later := whole ▸ (Service.target_iff overlap.built).mpr friend
  obtain ⟨⟨call, reply⟩, inside, same⟩ := List.mem_filterMap.mp target
  obtain ⟨entry, cap, rfl⟩ : ∃ entry cap, call = .push user entry cap := by
    cases call <;> simp at same
    exact ⟨_, _, by rw [same]⟩
  have there : (i, ⟨.push user entry cap, reply⟩) ∈ trace := mem_own.mp (by simp [calls, inside])
  have pushes : Made.pushed? user ⟨.push user entry cap, reply⟩ = some entry := if_pos rfl
  obtain ⟨_, other, listed', rfl, -⟩ := overlap.pushed there pushes
  obtain ⟨-, rfl⟩ : author = _ ∧ post = other := by simpa [listed] using listed'
  exact List.mem_reverse.mpr (List.mem_filterMap.mpr ⟨_, there, pushes⟩)

/-- A feed holds nothing but snapshots. -/
theorem snapshots (overlap : Overlap s wm activities w trace c) (alike : wm.capacity = s.capacity) {user : UserId}
    {entry : FeedEntry} (member : entry ∈ c.world.cache.feed user) : ∃ post, entry = .snapshot post := by
  by_cases rebuilt : ∃ step ∈ trace, step.2.Rebuilds user
  · obtain ⟨before, after, last⟩ := overlap.last_rebuild rebuilt
    rw [overlap.feed_rebuilt alike last] at member
    rcases List.mem_append.mp (List.mem_of_mem_take member) with pushed | taken
    · obtain ⟨author, post, -, same, -⟩ := overlap.of_mem_pushedIn (last.pushedIn.subset pushed)
      exact ⟨post, same⟩
    · obtain ⟨post, -, same⟩ := List.mem_map.mp taken
      exact ⟨post, same.symm⟩
  · rw [overlap.feed_pushed alike fun step inside rebuilds => rebuilt ⟨step, inside, rebuilds⟩] at member
    obtain ⟨author, post, -, same, -⟩ := overlap.of_mem_pushedIn (List.mem_of_mem_take member)
    exact ⟨post, same⟩

theorem decoded_iff (overlap : Overlap s wm activities w trace c) (alike : wm.capacity = s.capacity) {user : UserId}
    {post : Post} :
    (∃ entry ∈ c.world.cache.feed user, entry.decode = .ok post) ↔ .snapshot post ∈ c.world.cache.feed user := by
  constructor
  · rintro ⟨entry, member, decodes⟩
    obtain ⟨other, rfl⟩ := overlap.snapshots alike member
    rw [FeedEntry.decode_snapshot] at decodes
    cases decodes
    exact member
  · intro member
    exact ⟨_, member, FeedEntry.decode_snapshot post⟩

theorem shown_rebuilt (overlap : Overlap s wm activities w trace c) (alike : wm.capacity = s.capacity) {user : UserId}
    {before after : List (Nat × Made)} (last : LastRebuild user trace before after)
    (room : (pushedIn user trace).length ≤ s.capacity) (post : Post) :
    .snapshot post ∈ c.world.cache.feed user ↔ .snapshot post ∈ pushedIn user after ∨
      post ∈ (offered w user before).take (s.capacity - (pushedIn user after).length) := by
  have small : (pushedIn user after).length ≤ s.capacity := last.pushedIn.length_le.trans room
  rw [overlap.feed_rebuilt alike last, List.take_append, List.take_of_length_le small, List.mem_append, ← List.map_take,
    List.mem_map_of_injective FeedEntry.snapshot_injective]

/-- After all operations a friend's post is missing from a feed if the last rebuild had taken posts from the store
before it was there, and it was not pushed after that, or has fallen off the end since. -/
theorem shown_iff (overlap : Overlap s wm activities w trace c) (alike : wm.capacity = s.capacity)
    (few : (activities.filterMap Activity.post?).length ≤ s.capacity) (succeeded : Succeeded c) {user : UserId}
    {post : Post} (stored : post ∈ c.world.log.posts) (friend : post.author ∈ w.graph.friendsOf user) :
    (∃ entry ∈ c.world.cache.feed user, entry.decode = .ok post) ↔
      ∀ before after, LastRebuild user trace before after → .snapshot post ∈ pushedIn user after ∨
        post ∈ (offered w user before).take (s.capacity - (pushedIn user after).length) := by
  have room : (pushedIn user trace).length ≤ s.capacity := (overlap.length_pushedIn user).trans few
  rw [overlap.decoded_iff alike]
  by_cases rebuilt : ∃ step ∈ trace, step.2.Rebuilds user
  · constructor
    · intro shown before after last
      exact (overlap.shown_rebuilt alike last room post).mp shown
    · intro all
      obtain ⟨before, after, last⟩ := overlap.last_rebuild rebuilt
      exact (overlap.shown_rebuilt alike last room post).mpr (all before after last)
  · rw [overlap.feed_pushed alike fun step member rebuilds => rebuilt ⟨step, member, rebuilds⟩,
      List.take_of_length_le room]
    constructor
    · intro _ before after last
      exact absurd last.rebuilds rebuilt
    · intro _
      exact overlap.mem_pushedIn succeeded stored friend

/-- The post is created while the rebuild has asked for posts and not yet written them. -/
def amid : List (Nat × Made) × Crowd Outcome := scheduled [1, 1, 0, 0, 0, 0, 0, 0, 0, 0, 1]

theorem overlap_amid : Overlap { capacity := 4 } ⟨4, 1⟩ both pair amid.1 amid.2 := of_schedule _

theorem feed_amid : amid.2.world.cache.feed (.ofNat 7) = [] := rfl

theorem succeeded_amid : Succeeded amid.2 := by
  have ended : amid.2.tasks = [.done (.created (.ok note.id)), .done (.warmed (.ok ()))] := rfl
  intro t member
  rw [ended] at member
  rcases List.mem_pair.mp member with rfl | rfl
  · exact ⟨_, rfl, _, rfl⟩
  · exact ⟨_, rfl, rfl⟩

/-- Without a lock a post can get lost. -/
theorem not_shown :
    ¬∀ (s : Service) (wm : Warmer) (activities : List Activity) (w : World) (trace : List (Nat × Made))
      (c : Crowd Outcome) (user : UserId) (post : Post), wm.capacity = s.capacity → w.notifier.isClosed = false →
      (activities.filterMap Activity.post?).length ≤ s.capacity →
      ((activities.filterMap Activity.post?).map (·.id)).Nodup → Overlap s wm activities w trace c → Succeeded c →
      post ∈ c.world.log.posts → post.author ∈ w.graph.friendsOf user →
      ∃ entry ∈ c.world.cache.feed user, entry.decode = .ok post := by
  intro shown
  obtain ⟨entry, member, -⟩ := shown _ _ _ _ _ _ (.ofNat 7) note rfl rfl (by decide) (by decide) overlap_amid
    succeeded_amid List.mem_cons_self (by decide)
  rw [feed_amid] at member
  cases member

theorem shown_iff_amid : ¬∀ before after, LastRebuild (.ofNat 7) amid.1 before after →
    .snapshot note ∈ pushedIn (.ofNat 7) after ∨
      note ∈ (offered pair (.ofNat 7) before).take (4 - (pushedIn (.ofNat 7) after).length) := by
  intro all
  obtain ⟨entry, member, -⟩ :=
    (shown_iff overlap_amid rfl (by decide) succeeded_amid List.mem_cons_self (by decide)).mpr all
  rw [feed_amid] at member
  cases member

end Overlap
end FeedFanout
