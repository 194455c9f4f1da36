import FeedFanout.Proofs.Overlap

/-!
The last rebuild of a feed, among posting and warming beside each other. A feed holds what was pushed into it since its
last rebuild, and then what that rebuild took from the store (`Overlap.feed_rebuilt`).
-/
namespace FeedFanout

/-- What there was of the posts of a user's friends, as far as one query goes. -/
def offered (w : World) (user : UserId) (before : List (Nat × Made)) : List Post :=
  ((storedIn before).filter (·.author ∈ w.graph.friendsOf user)).take Window.largest

/-- The last rebuild of a user's feed took posts from the store when `before` had happened. `after` came when it had
written the feed. -/
def LastRebuild (user : UserId) (trace before after : List (Nat × Made)) : Prop :=
  ∃ i query between rebuild, trace = before ++ (i, query) :: (between ++ (i, rebuild) :: after) ∧
    query.Queries user ∧ rebuild.Rebuilds user ∧ ∀ step ∈ after, ¬step.2.Rebuilds user

namespace LastRebuild
variable {user : UserId} {trace before after : List (Nat × Made)}

theorem storedIn (last : LastRebuild user trace before after) : (storedIn before).Sublist (storedIn trace) := by
  obtain ⟨i, query, between, rebuild, rfl, -⟩ := last
  rw [storedIn_append]
  exact List.sublist_append_right ..

theorem pushedIn (last : LastRebuild user trace before after) :
    (pushedIn user after).Sublist (pushedIn user trace) := by
  obtain ⟨i, query, between, rebuild, rfl, -⟩ := last
  rw [← List.cons_append, ← List.append_assoc, pushedIn_append, ← List.singleton_append, pushedIn_append,
    List.append_assoc]
  exact List.sublist_append_left ..

theorem rebuilds (last : LastRebuild user trace before after) : ∃ step ∈ trace, step.2.Rebuilds user := by
  obtain ⟨i, query, between, rebuild, rfl, -, rebuilds, -⟩ := last
  exact ⟨(i, rebuild), by simp, rebuilds⟩

end LastRebuild

theorem offered_sublist (w : World) (user : UserId) (before : List (Nat × Made)) :
    (offered w user before).Sublist (storedIn before) :=
  (List.take_sublist ..).trans List.filter_sublist

namespace Overlap
variable {s : Service} {wm : Warmer} {activities : List Activity} {w : World} {trace : List (Nat × Made)}
  {c : Crowd Outcome}

/-- Without a rebuild a feed holds what was pushed into it. -/
theorem feed_pushed (overlap : Overlap s wm activities w trace c) (alike : wm.capacity = s.capacity) {user : UserId}
    (never : ∀ step ∈ trace, ¬step.2.Rebuilds user) :
    c.world.cache.feed user = (pushedIn user trace).take s.capacity := by
  have nothing : w.cache.feed user = [] := by rw [overlap.unread]; rfl
  rw [overlap.runs.plays.feed (overlap.plain alike) never (by simp [nothing]), nothing, List.append_nil]

/-- The calls of an operation that rebuilds a feed. -/
theorem rebuild (overlap : Overlap s wm activities w trace c) {i : Nat} {made : Made} (member : (i, made) ∈ trace)
    {user : UserId} (rebuilds : made.Rebuilds user) :
    ∃ posts reply, own i trace = [⟨.friendsOf user, some (.ok (w.graph.friendsOf user))⟩,
        ⟨.query user (w.graph.friendsOf user) wm.window, some (.ok posts)⟩,
        ⟨.rebuild user (posts.map .snapshot) wm.capacity, some reply⟩] := by
  have mine := mem_own.mpr member
  obtain ⟨activity, -, steps⟩ := overlap.steps member
  cases steps with
  | create steps => exact absurd rebuilds (steps.never user made mine)
  | warm steps =>
    obtain ⟨entries, cap, same⟩ := rebuilds
    have shared : ∀ made ∈ own i trace, (i, made) ∈ trace := fun made => mem_own.mp
    generalize own i trace = calls at *
    cases steps with
    | rebuilt friends posts reply =>
      simp only [List.mem_cons, List.not_mem_nil, or_false] at mine
      obtain rfl | rfl | rfl := mine
      · cases same
      · cases same
      · cases same
        obtain rfl := overlap.friends (shared _ List.mem_cons_self)
        exact ⟨posts, reply, rfl⟩
    | queried =>
      rcases List.mem_pair.mp mine with rfl | rfl
      · cases same
      · cases same
    | asked => cases List.mem_singleton.mp mine; cases same
    | begun => cases mine

/-- What such an operation writes, and what it has asked for. -/
theorem rebuild_of (overlap : Overlap s wm activities w trace c) {i : Nat} {made : Made} (member : (i, made) ∈ trace)
    {user : UserId} (rebuilds : made.Rebuilds user) :
    ∃ posts reply, made = ⟨.rebuild user (posts.map .snapshot) wm.capacity, some reply⟩ ∧
      ∀ other, (i, other) ∈ trace → other.Queries user →
        other = ⟨.query user (w.graph.friendsOf user) wm.window, some (.ok posts)⟩ := by
  obtain ⟨posts, reply, calls⟩ := overlap.rebuild member rebuilds
  have mine := mem_own.mpr member
  rw [calls] at mine
  simp only [List.mem_cons, List.not_mem_nil, or_false] at mine
  obtain ⟨entries, cap, same⟩ := rebuilds
  refine ⟨posts, reply, ?_, ?_⟩
  · obtain rfl | rfl | rfl := mine
    · cases same
    · cases same
    · rfl
  · rintro other inside ⟨authors, window, queries⟩
    have theirs := mem_own.mpr inside
    rw [calls] at theirs
    simp only [List.mem_cons, List.not_mem_nil, or_false] at theirs
    obtain rfl | rfl | rfl := theirs
    · cases queries
    · rfl
    · cases queries

/-- A feed that was rebuilt holds what was pushed into it since, and then what the last rebuild took from the store. -/
theorem feed_rebuilt (overlap : Overlap s wm activities w trace c) (alike : wm.capacity = s.capacity) {user : UserId}
    {before after : List (Nat × Made)} (last : LastRebuild user trace before after) :
    c.world.cache.feed user =
      (pushedIn user after ++ (offered w user before).map FeedEntry.snapshot).take s.capacity := by
  have plain := overlap.plain alike
  obtain ⟨i, query, between, rebuild, rfl, queries, rebuilds, never⟩ := last
  obtain ⟨posts, reply, rfl, only⟩ := overlap.rebuild_of (i := i) (by simp) rebuilds
  obtain rfl := only query (by simp) queries
  -- The posts are those that the store held when it was asked.
  have taken : posts = wm.window.select ((storedIn before).filter (·.author ∈ w.graph.friendsOf user)) := by
    obtain ⟨w₁, w₂, earlier, serves, -⟩ := overlap.runs.plays_at
    have log := earlier.log_posts
    rw [overlap.unwritten] at log
    cases serves
    rw [PostLog.query, PostLog.byAuthors, log]
    simp [PostLog.empty]
  have runs := overlap.runs
  rw [← List.cons_append, ← List.append_assoc] at runs
  obtain ⟨w₁, w₂, -, serves, later⟩ := runs.plays_at
  have written : w₂.cache.feed user = ((offered w user before).map FeedEntry.snapshot).take s.capacity := by
    cases serves
    simp [World.perform, FeedCache.rebuild, FeedCache.feed, alike, taken, Warmer.select_window, offered, List.take_take]
  have small : (w₂.cache.feed user).length ≤ s.capacity := by
    rw [written]
    exact List.length_take_le ..
  rw [later.feed (fun step inside => plain step (by simp [inside])) never small, written, take_append_take]

theorem last_rebuild (overlap : Overlap s wm activities w trace c) {user : UserId}
    (rebuilt : ∃ step ∈ trace, step.2.Rebuilds user) : ∃ before after, LastRebuild user trace before after := by
  obtain ⟨first, ⟨i, made⟩, after, split, ⟨entries, cap, same⟩, never⟩ := exists_last rebuilt
  obtain ⟨posts, reply, calls⟩ := overlap.rebuild (i := i) (by simp [split]) ⟨entries, cap, same⟩
  have parts : own i trace = own i first ++ made :: own i after := by simp [split, own]
  -- Of the three calls the rebuild is the last, so that the query stands before it.
  have earlier : ⟨.query user (w.graph.friendsOf user) wm.window, some (.ok posts)⟩ ∈ own i first := by
    rw [calls] at parts
    generalize own i first = earlier at *
    rcases earlier with _ | ⟨asked, _ | ⟨queried, rest⟩⟩
    · obtain ⟨rfl, -⟩ := List.cons.inj parts
      cases same
    · obtain ⟨-, tail⟩ := List.cons.inj parts
      obtain ⟨rfl, -⟩ := List.cons.inj tail
      cases same
    · obtain ⟨-, tail⟩ := List.cons.inj parts
      obtain ⟨rfl, -⟩ := List.cons.inj tail
      exact List.mem_cons_of_mem _ List.mem_cons_self
  obtain ⟨before, between, rfl⟩ := List.append_of_mem (mem_own.mp earlier)
  exact ⟨before, after, i, ⟨.query user (w.graph.friendsOf user) wm.window, some (.ok posts)⟩, between, made,
    by simpa using split, ⟨_, _, rfl⟩, ⟨entries, cap, same⟩, never⟩

end Overlap
end FeedFanout
