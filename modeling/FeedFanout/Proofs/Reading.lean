import FeedFanout.Proofs.Runs
import FeedFanout.Proofs.WireForm
import FeedFanout.Service.Read

/-!
Reading without faults. The cache answers if the window fits and the feed is there, and the store answers otherwise
(`Service.run_feedPage`). A feed of snapshots shows a window of the posts that they were taken of
(`Service.feedPage_cached`).
-/
namespace FeedFanout

namespace Window

theorem select_eq {α : Type} {window : Window} {limit : Bound} (bounded : window.limit = some limit) (xs : List α) :
    window.select xs = (xs.drop window.start).take limit.val := by
  simp [select, Window.bounded, bounded]

theorem start_le (window : Window) : window.start ≤ largest := by
  unfold start
  cases window.offset with
  | none => exact Nat.zero_le _
  | some offset => exact Nat.le_of_lt_succ offset.isLt

/-- The position behind a window is never cut off. -/
theorem stop_eq (window : Window) : window.stop = window.limit.map fun limit => window.start + limit.val := by
  unfold stop
  cases window.limit with
  | none => rfl
  | some limit =>
    have start := window.start_le
    have size := limit.isLt
    refine congrArg some (Nat.min_eq_left ?_)
    simp only [largest, lastPosition] at *
    omega

/-- A window that fits is bounded and ends before the capacity. -/
theorem fits_iff {window : Window} {capacity : Nat} :
    window.fits capacity = true ↔ ∃ limit, window.limit = some limit ∧ window.start + limit.val < capacity := by
  rw [fits, stop_eq]
  cases window.limit <;> simp

theorem select_take {α : Type} {window : Window} {limit : Bound} (bounded : window.limit = some limit) {room : Nat}
    (inside : window.start + limit.val ≤ room) (xs : List α) : window.select (xs.take room) = window.select xs := by
  rw [select_eq bounded, select_eq bounded, List.drop_take, List.take_take, Nat.min_eq_left (by omega)]

theorem bounded_map {α β : Type} (limit : Option Bound) (f : α → β) (xs : List α) :
    bounded limit (xs.map f) = (bounded limit xs).map f := by
  cases limit <;> simp [bounded, List.map_take]

theorem select_map {α β : Type} (window : Window) (f : α → β) (xs : List α) :
    window.select (xs.map f) = (window.select xs).map f := by
  rw [select, select, ← List.map_drop, bounded_map]

theorem select_sublist {α : Type} (window : Window) (xs : List α) : (window.select xs).Sublist xs := by
  cases limit : window.limit with
  | none =>
    rw [select, limit]
    exact List.drop_sublist ..
  | some bound =>
    rw [select_eq limit]
    exact (List.take_sublist ..).trans (List.drop_sublist ..)

/-- What a window shows, place by place. -/
theorem getElem?_bounded_drop {α : Type} (limit : Option Bound) (xs : List α) (offset i : Nat) :
    (bounded limit (xs.drop offset))[i]? =
      if ∀ bound, limit = some bound → i < bound.val then xs[offset + i]? else none := by
  cases limit with
  | none => simp [bounded]
  | some bound => simp [bounded, List.getElem?_take]

@[simp] theorem select_all {α : Type} (xs : List α) : all.select xs = xs := rfl

end Window

namespace Service
variable (s : Service)

theorem decodeAll_snapshots (posts : List Post) : decodeAll (posts.map .snapshot) = .ok posts := by
  induction posts with
  | nil => rfl
  | cons post posts ih => simp [decodeAll, FeedEntry.decode_snapshot, ih]

theorem run_readStored (user : UserId) (window : Window) (w : World) :
    (s.readStored user window).run w = (.ok ⟨w.log.query (w.graph.friendsOf user) window, .store⟩, w) := rfl

theorem run_readCached (user : UserId) (window : Window) (w : World) :
    (s.readCached user window).run w =
      (if w.cache.has user then
        match decodeAll (w.cache.read user window.start window.limit) with
        | .ok posts => .posts posts
        | .error e => .corrupt e
      else .absent, w) := by
  simp only [readCached, within, Task.bind_eq, Task.callWithin, Task.bind, Task.run, World.perform, Task.pure_eq]
  by_cases has : w.cache.has user
  · simp only [has, Task.bind, Task.run, World.perform, if_true]
    cases decodeAll (w.cache.read user window.start window.limit) <;> rfl
  · simp only [has]; rfl

/-- A page comes from the cache if the window fits and the feed is there, and from the store otherwise. -/
theorem run_feedPage (user : UserId) (window : Window) (w : World) :
    (s.feedPage user window).run w =
      (if window.fits s.capacity ∧ w.cache.has user then
        match decodeAll (w.cache.read user window.start window.limit) with
        | .ok posts => .ok ⟨posts, .cache⟩
        | .error e => .error (.corruptEntry e)
      else .ok ⟨w.log.query (w.graph.friendsOf user) window, .store⟩, w) := by
  unfold feedPage
  by_cases fits : window.fits s.capacity
  · simp only [fits, if_true, true_and, Task.bind_eq, Task.run_bind, run_readCached]
    by_cases has : w.cache.has user
    · simp only [has, if_true]
      cases decodeAll (w.cache.read user window.start window.limit) <;> rfl
    · simp only [has]; rfl
  · simp only [fits, Bool.false_eq_true, if_false, false_and, run_readStored]

theorem feedPage_absent {user : UserId} {w : World} (absent : w.cache.feed? user = none) (window : Window) :
    (s.feedPage user window).run w = (.ok ⟨w.log.query (w.graph.friendsOf user) window, .store⟩, w) := by
  simp [run_feedPage, FeedCache.has, absent]

theorem feedPage_unfit {window : Window} (unfit : window.fits s.capacity = false) (user : UserId) (w : World) :
    (s.feedPage user window).run w = (.ok ⟨w.log.query (w.graph.friendsOf user) window, .store⟩, w) := by
  simp [run_feedPage, unfit]

/-- A feed of snapshots, of which as many are kept as there is room for, shows every window that fits. -/
theorem feedPage_cached {user : UserId} {w : World} {posts : List Post}
    (held : w.cache.feed? user = some ((posts.take s.capacity).map .snapshot)) {window : Window}
    (fits : window.fits s.capacity = true) :
    (s.feedPage user window).run w = (.ok ⟨window.select posts, .cache⟩, w) := by
  obtain ⟨limit, bounded, inside⟩ := Window.fits_iff.mp fits
  have shown : w.cache.read user window.start window.limit = (window.select posts).map .snapshot := by
    change window.select (w.cache.feed user) = _
    rw [FeedCache.feed, held, Option.getD_some, Window.select_map, Window.select_take bounded (Nat.le_of_lt inside)]
  simp [run_feedPage, fits, FeedCache.has, held, shown, decodeAll_snapshots]

end Service
end FeedFanout
