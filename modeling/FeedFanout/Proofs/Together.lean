import FeedFanout.Proofs.Crowds
import FeedFanout.Proofs.Report
import Mathlib.Data.List.Perm.Basic

/-!
Posts created beside each other, in any order of their calls, without faults. Every creation succeeds, and every post
comes once into the store and once into the feed of every friend (`Together.creates_all`).
-/
namespace FeedFanout

theorem World.perform_running {w : World} (running : w.notifier.isClosed = false) (call : Call) :
    (w.perform call).world.notifier.isClosed = false := by
  cases call with
  | append => rw [perform_append]; split <;> exact running
  | publish user post =>
    obtain ⟨notifier, -, world, still⟩ := perform_publish running user post
    rw [world]
    exact still
  | subscribe user =>
    simp only [perform]
    split
    · exact (Live.Notifier.subscribe?_isClosed ‹_›).trans running
    · exact running
  | _ => exact running

namespace Service
variable {s : Service} {post : Post} {friends : List UserId} {calls : List Made}

/-- The calls of a creation in which nothing fails. -/
def smooth (s : Service) (graph : FriendGraph) (post : Post) : List Made :=
  ⟨.append post, some (.ok ())⟩ :: ⟨.friendsOf post.author, some (.ok (graph.friendsOf post.author))⟩ ::
    (targets post (graph.friendsOf post.author)).flatMap (s.reachedBy post)

/-- Nothing is appended after the first call. -/
theorem Steps.later {made : Made} (steps : s.Steps post (made :: calls)) :
    ∀ later ∈ calls, ∀ other, later.call ≠ .append other := by
  cases steps with
  | appended => nofun
  | asked reply =>
    intro later member other same
    cases List.mem_singleton.mp member
    cases same
  | reached friends pushes =>
    intro later member other same
    rcases List.mem_cons.mp member with rfl | member
    · cases same
    · obtain ⟨user, call⟩ | ⟨user, call⟩ := pushes.each later member
      · cases call.symm.trans same
      · cases call.symm.trans same

/-- If all calls succeeded, the answer is the identifier of the post. -/
theorem Answers.smooth {graph : FriendGraph} {answer : Except FeedError PostId} (answers : s.Answers post calls answer)
    (succeeded : ∀ made ∈ calls, made.succeeded = true)
    (known : ∀ friends, ⟨.friendsOf post.author, some (.ok friends)⟩ ∈ calls → friends = graph.friendsOf post.author) :
    answer = .ok post.id ∧ calls = s.smooth graph post := by
  cases answers with
  | @unstored reply error bad =>
    have good := succeeded _ List.mem_cons_self
    obtain _ | e | done := reply
    · cases good
    · cases good
    · cases bad
  | @unlisted reply error bad =>
    have good := succeeded _ (List.mem_cons_of_mem _ List.mem_cons_self)
    obtain _ | e | friends := reply
    · cases good
    · cases good
    · cases bad
  | @reached friends calls reach reports =>
    obtain rfl := known friends (by simp)
    have fine := reports.fine fun made member => succeeded made (by simp [member])
    obtain ⟨rfl, -, -⟩ := reports.whole fine
    refine ⟨?_, rfl⟩
    rw [Reach.answer, fine]
    rfl

/-- Everybody was reached. -/
theorem Reports.all (s : Service) (post : Post) (friends : List UserId) :
    s.Reports post friends (friends.flatMap (s.reachedBy post)) ⟨friends, [], []⟩ := by
  induction friends with
  | nil => exact .none
  | cons friend friends ih => exact .delivered ih

theorem acceptedIn_smooth {graph : FriendGraph} (built : graph.Built) (post : Post) (user : UserId) :
    acceptedIn user (s.smooth graph post) = if post.author ∈ graph.friendsOf user then [.snapshot post] else [] := by
  have distinct : (targets post (graph.friendsOf post.author)).Nodup := (graph.nodup_friendsOf _).filter _
  have accepted := (Reports.all s post (targets post (graph.friendsOf post.author))).accepted distinct user
  have none : ¬Fanout.Partial.Lacks (Reach.report ⟨targets post (graph.friendsOf post.author), [], []⟩ post) user := by
    simp [Fanout.Partial.Lacks, Reach.report]
  simp only [target_iff built, none, not_false_eq_true, and_true] at accepted
  rw [smooth, acceptedIn_cons, acceptedIn_cons, accepted]
  simp [Made.accepted?, Made.pushed?]

theorem appendedIn_smooth (graph : FriendGraph) (post : Post) : appendedIn (s.smooth graph post) = [post] := by
  have sent : appendedIn ((targets post (graph.friendsOf post.author)).flatMap (s.reachedBy post)) = [] := by
    simp [appendedIn, List.filterMap_flatMap, reachedBy, Made.stored?]
  rw [smooth, appendedIn_cons, appendedIn_cons, sent]
  rfl

end Service

/-- Posts created beside each other, each by its author, without faults. Their identifiers were never used before. -/
structure Together (s : Service) (posts : List Post) (w : World) (trace : List (Nat × Made))
    (c : Crowd (Except FeedError PostId)) : Prop where
  built : w.graph.Built
  running : w.notifier.isClosed = false
  exact : w.log.Exact
  fresh : ∀ post ∈ posts, post.id ∉ w.log.taken
  distinct : (posts.map (·.id)).Nodup
  runs : Crowd.Runs World.Serves ⟨posts.map fun post => s.createPost post.author post, w⟩ trace c

namespace Together
variable {s : Service} {posts : List Post} {w : World} {trace : List (Nat × Made)} {c : Crowd (Except FeedError PostId)}

theorem goes (together : Together s posts w trace c) {i : Nat} {post : Post} (listed : posts[i]? = some post) :
    ∃ rest, c.tasks[i]? = some rest ∧ (s.createPost post.author post).Goes (own i trace) rest :=
  together.runs.goes (by simp [listed])

theorem steps (together : Together s posts w trace c) {i : Nat} {made : Made} (member : (i, made) ∈ trace) :
    ∃ post, posts[i]? = some post ∧ s.Steps post (own i trace) := by
  obtain ⟨t, begun⟩ := together.runs.caller member
  obtain ⟨post, listed, -⟩ : ∃ post, posts[i]? = some post ∧ s.createPost post.author post = t := by simpa using begun
  obtain ⟨rest, -, goes⟩ := together.goes listed
  exact ⟨post, listed, (Service.goes_createPost goes).1⟩

theorem running_at (together : Together s posts w trace c) {calls : List Made} {w₁ : World}
    (plays : World.Plays World.Serves w calls w₁) : w₁.notifier.isClosed = false :=
  plays.keeps (·.notifier.isClosed = false) together.running
    fun _ _ _ _ running serves => by cases serves; exact World.perform_running running _

/-- A creation appends its own post. -/
theorem appends (together : Together s posts w trace c) {i : Nat} {made : Made} (member : (i, made) ∈ trace)
    {post : Post} (append : made.call = .append post) : posts[i]? = some post := by
  obtain ⟨mine, listed, steps⟩ := together.steps member
  obtain same | same | ⟨user, same⟩ | ⟨user, same⟩ := steps.among (mem_own.mpr member)
  all_goals rw [append] at same; cases same
  exact listed

theorem eq_of_id (together : Together s posts w trace c) {i j : Nat} {first second : Post}
    (left : posts[i]? = some first) (right : posts[j]? = some second) (same : first.id = second.id) : i = j := by
  have inside : i < (posts.map (·.id)).length := by
    rw [List.length_map]
    exact (List.getElem?_eq_some_iff.mp left).1
  refine (List.getElem?_inj inside together.distinct).mp ?_
  rw [List.getElem?_map, List.getElem?_map, left, right, Option.map_some, Option.map_some, same]

/-- When a post comes to be stored, its identifier is not in use. -/
theorem fresh_at (together : Together s posts w trace c) {before after : List (Nat × Made)} {i : Nat} {post : Post}
    {reply : Option (Except StoreError Unit)} (split : trace = before ++ (i, ⟨.append post, reply⟩) :: after)
    {w₁ : World} (earlier : World.Plays World.Serves w (before.map (·.2)) w₁) : post.id ∉ w₁.log.taken := by
  have now : (i, ⟨.append post, reply⟩) ∈ trace := by simp [split]
  have listed := together.appends now rfl
  have exact := (earlier.mono World.Serves.falters).exact together.exact
  rw [exact.taken, earlier.log_posts]
  rintro ⟨other, held, same⟩
  rcases List.mem_append.mp held with new | old
  · -- Another creation would have the same identifier, and this one appends nothing before.
    obtain ⟨⟨j, made⟩, member, stored⟩ := List.mem_filterMap.mp (List.mem_reverse.mp new)
    have call := (Made.stored?_eq_some.mp stored).1
    have listed' := together.appends (i := j) (by simp [split, member]) call
    obtain rfl := together.eq_of_id listed' listed same
    obtain ⟨mine, -, steps⟩ := together.steps now
    have earlier : made ∈ own j before := mem_own.mpr member
    have parts : own j trace = own j before ++ ⟨.append post, reply⟩ :: own j after := by simp [split, own]
    rw [parts] at steps
    generalize own j before = calls at *
    cases calls with
    | nil => cases earlier
    | cons first calls => exact steps.later ⟨.append post, reply⟩ (by simp) post rfl
  · refine together.fresh post (List.mem_of_getElem? listed) ?_
    rw [together.exact.taken]
    exact ⟨other, old, same⟩

/-- No call fails. -/
theorem succeeded (together : Together s posts w trace c) : ∀ step ∈ trace, step.2.succeeded = true := by
  rintro ⟨i, made⟩ member
  obtain ⟨before, after, split⟩ := List.append_of_mem member
  have runs := together.runs
  rw [split] at runs
  obtain ⟨w₁, w₂, earlier, serves, -⟩ := runs.plays_at
  obtain ⟨_, call⟩ := serves
  obtain ⟨post, listed, steps⟩ := together.steps member
  obtain same | same | ⟨user, same⟩ | ⟨user, same⟩ := steps.among (mem_own.mpr member)
  · obtain rfl : call = .append post := same
    have fresh := together.fresh_at split earlier
    simp only [World.perform_append, if_neg fresh]
    rfl
  · obtain rfl : call = .friendsOf post.author := same
    rfl
  · obtain rfl : call = .push user (.snapshot post) s.capacity := same
    rfl
  · obtain rfl : call = .publish user post := same
    obtain ⟨notifier, reply, -⟩ := World.perform_publish (together.running_at earlier) user post
    simp only [reply]
    rfl

theorem friends (together : Together s posts w trace c) {i : Nat} {user : UserId} {friends : List UserId}
    (member : (i, ⟨.friendsOf user, some (.ok friends)⟩) ∈ trace) : friends = w.graph.friendsOf user := by
  obtain ⟨before, after, split⟩ := List.append_of_mem member
  have runs := together.runs
  rw [split] at runs
  obtain ⟨w₁, w₂, earlier, serves, -⟩ := runs.plays_at
  rw [serves.falters.friends, (earlier.mono World.Serves.falters).graph]

/-- A creation that has returned has made all its calls, and answers the identifier of its post. -/
theorem returned (together : Together s posts w trace c) {i : Nat} {post : Post} (listed : posts[i]? = some post)
    {answer : Except FeedError PostId} (done : c.tasks[i]? = some (.done answer)) :
    answer = .ok post.id ∧ own i trace = s.smooth w.graph post := by
  obtain ⟨rest, held, goes⟩ := together.goes listed
  obtain rfl : rest = .done answer := by rw [held] at done; exact Option.some.inj done
  obtain ⟨-, answers⟩ | ⟨other, -⟩ := Service.goes_answers goes
  · refine answers.smooth ?_ ?_
    · exact fun made mine => together.succeeded _ (mem_own.mp mine)
    · exact fun friends mine => together.friends (mem_own.mp mine)
  · exact absurd rfl other

/-- At every moment a creation has made the first of its calls. -/
theorem so_far (together : Together s posts w trace c) {i : Nat} {post : Post} (listed : posts[i]? = some post) :
    own i trace <+: s.smooth w.graph post := by
  obtain ⟨more, c', runs, ended⟩ := together.runs.finish
  have later : Together s posts w (trace ++ more) c' := { together with runs }
  obtain ⟨rest, held, -⟩ := later.goes listed
  obtain ⟨answer, rfl⟩ := ended rest (List.mem_of_getElem? held)
  rw [← (later.returned listed held).2, own_append]
  exact List.prefix_append ..

/-! ### When all have returned -/

/-- All creations have returned. -/
def Returned (c : Crowd (Except FeedError PostId)) : Prop := ∀ t ∈ c.tasks, ∃ answer, t = .done answer

theorem own_eq (together : Together s posts w trace c) (ended : Returned c) {i : Nat} {post : Post}
    (listed : posts[i]? = some post) : own i trace = s.smooth w.graph post := by
  obtain ⟨rest, held, -⟩ := together.goes listed
  obtain ⟨answer, rfl⟩ := ended rest (List.mem_of_getElem? held)
  exact (together.returned listed held).2

/-- All calls of all creations were made, in some order. -/
theorem perm (together : Together s posts w trace c) (ended : Returned c) :
    (trace.map (·.2)).Perm (posts.flatMap (s.smooth w.graph)) := by
  have among : trace.filter (·.1 < posts.length) = trace := by
    refine List.filter_eq_self.mpr ?_
    rintro ⟨i, made⟩ member
    obtain ⟨post, listed, -⟩ := together.steps member
    exact decide_eq_true (List.getElem?_eq_some_iff.mp listed).1
  have each : (List.range posts.length).map (fun i => own i trace) = posts.map (s.smooth w.graph) := by
    refine List.ext_getElem (by simp) ?_
    intro i _ inside
    have listed : i < posts.length := by simpa using inside
    simpa using together.own_eq ended (List.getElem?_eq_getElem listed)
  have mixed := perm_own trace posts.length
  rwa [among, List.flatMap_def, each, ← List.flatMap_def] at mixed

/-- Every post came into the store. -/
theorem stored (together : Together s posts w trace c) (ended : Returned c) :
    ∃ order, order.Perm posts ∧ c.world.log.posts = order ++ w.log.posts := by
  have each : appendedIn (posts.flatMap (s.smooth w.graph)) = posts.reverse := by
    generalize posts = posts
    induction posts with
    | nil => rfl
    | cons post posts ih =>
      rw [List.flatMap_cons, appendedIn_append, ih, Service.appendedIn_smooth, List.reverse_cons]
  refine ⟨storedIn trace, ?_, together.runs.plays.log_posts⟩
  have perm := appendedIn_perm (together.perm ended)
  rw [appendedIn_map, each] at perm
  exact perm.trans (List.reverse_perm _)

/-- Every post was pushed once to every friend. -/
theorem pushed (together : Together s posts w trace c) (ended : Returned c) (user : UserId) :
    (pushedIn user trace).Perm ((posts.filter (·.author ∈ w.graph.friendsOf user)).map .snapshot) := by
  have each : acceptedIn user (posts.flatMap (s.smooth w.graph)) =
      ((posts.filter (·.author ∈ w.graph.friendsOf user)).map FeedEntry.snapshot).reverse := by
    generalize posts = posts
    induction posts with
    | nil => rfl
    | cons post posts ih =>
      rw [List.flatMap_cons, acceptedIn_append, ih, Service.acceptedIn_smooth together.built, List.filter_cons]
      by_cases friend : post.author ∈ w.graph.friendsOf user
      · simp [friend]
      · simp [friend]
  have perm := acceptedIn_perm user (together.perm ended)
  rw [together.runs.plays.accepted, each] at perm
  exact perm.trans (List.reverse_perm _)

/-- A feed holds what was pushed into it before what it held. -/
theorem feed? (together : Together s posts w trace c) (user : UserId) :
    c.world.cache.feed? user =
      if pushedIn user trace = [] then w.cache.feed? user
      else some ((pushedIn user trace ++ w.cache.feed user).take s.capacity) := by
  have plain : ∀ made ∈ trace.map (·.2), made.call.Plain s.capacity := by
    rintro made member
    obtain ⟨⟨i, made⟩, inside, rfl⟩ := List.mem_map.mp member
    obtain ⟨post, -, steps⟩ := together.steps inside
    exact steps.plain made (mem_own.mpr inside)
  have never : ∀ made ∈ trace.map (·.2), ¬made.Rebuilds user := by
    rintro made member
    obtain ⟨⟨i, made⟩, inside, rfl⟩ := List.mem_map.mp member
    obtain ⟨post, -, steps⟩ := together.steps inside
    exact steps.never user made (mem_own.mpr inside)
  have held := (together.runs.plays.mono World.Serves.falters).feed? plain never
  rwa [together.runs.plays.accepted] at held

/-- A task had made all its calls before another made its first. So it is if the one returned before the other began. -/
def Before (i j : Nat) (trace : List (Nat × Made)) : Prop :=
  ∃ first second, trace = first ++ second ∧ own i second = [] ∧ own j first = []

theorem mem_pushedIn_of_own {i : Nat} {calls : List (Nat × Made)} {user : UserId} {entry : FeedEntry}
    (accepted : entry ∈ acceptedIn user (own i calls)) : entry ∈ pushedIn user calls := by
  obtain ⟨made, mine, accepts⟩ := List.mem_filterMap.mp (List.mem_reverse.mp accepted)
  have pushes : made.pushed? user = some entry := by
    rw [Made.accepted?] at accepts
    split at accepts
    · exact accepts
    · cases accepts
  exact List.mem_reverse.mpr (List.mem_filterMap.mpr ⟨(i, made), mem_own.mp mine, pushes⟩)

/-- Of two posts, one of which was created before the other, the later stands before the earlier. -/
theorem order (together : Together s posts w trace c) (ended : Returned c) {i j : Nat} {post later : Post}
    (listed : posts[i]? = some post) (listed' : posts[j]? = some later) (before : Before i j trace) {user : UserId}
    (friend : post.author ∈ w.graph.friendsOf user) (friend' : later.author ∈ w.graph.friendsOf user) :
    [.snapshot later, .snapshot post].Sublist (pushedIn user trace) := by
  obtain ⟨first, second, rfl, finished, unbegun⟩ := before
  have early := together.own_eq ended listed
  have late := together.own_eq ended listed'
  rw [own_append, finished, List.append_nil] at early
  rw [own_append, unbegun, List.nil_append] at late
  have pushed : .snapshot post ∈ pushedIn user first := by
    refine mem_pushedIn_of_own (i := i) ?_
    rw [early, Service.acceptedIn_smooth together.built, if_pos friend]
    exact List.mem_singleton_self _
  have pushed' : .snapshot later ∈ pushedIn user second := by
    refine mem_pushedIn_of_own (i := j) ?_
    rw [late, Service.acceptedIn_smooth together.built, if_pos friend']
    exact List.mem_singleton_self _
  rw [pushedIn_append, ← List.singleton_append]
  exact (List.singleton_sublist.mpr pushed').append (List.singleton_sublist.mpr pushed)

/-- Creations beside each other all succeed, whatever the order of their calls. Each of the posts comes once into the
store and once into the feed of each of its author's friends, the later before the earlier. -/
theorem once_each (together : Together s posts w trace c) :
    (∀ i post, posts[i]? = some post → own i trace <+: s.smooth w.graph post ∧
      ∀ answer, c.tasks[i]? = some (.done answer) → answer = .ok post.id) ∧
    (∃ more c', Together s posts w (trace ++ more) c' ∧ Returned c') ∧
    (Returned c →
      (∃ order, order.Perm posts ∧ c.world.log.posts = order ++ w.log.posts) ∧
      (c.world.log.posts.map (·.id)).Nodup ∧
      ∀ user,
        (pushedIn user trace).Perm ((posts.filter (·.author ∈ w.graph.friendsOf user)).map .snapshot) ∧
        c.world.cache.feed? user = (if pushedIn user trace = [] then w.cache.feed? user
          else some ((pushedIn user trace ++ w.cache.feed user).take s.capacity)) ∧
        ∀ i j post later, posts[i]? = some post → posts[j]? = some later → Before i j trace →
          post.author ∈ w.graph.friendsOf user → later.author ∈ w.graph.friendsOf user →
          [.snapshot later, .snapshot post].Sublist (pushedIn user trace)) := by
  refine ⟨?_, ?_, ?_⟩
  · intro i post listed
    exact ⟨together.so_far listed, fun answer done => (together.returned listed done).1⟩
  · obtain ⟨more, c', runs, ended⟩ := together.runs.finish
    exact ⟨more, c', { together with runs }, ended⟩
  · intro ended
    have exact := (together.runs.plays.mono World.Serves.falters).exact together.exact
    refine ⟨together.stored ended, exact.distinct, ?_⟩
    intro user
    refine ⟨together.pushed ended user, together.feed? user, ?_⟩
    intro i j post later listed listed' before friend friend'
    exact together.order ended listed listed' before friend friend'

/-- User 7 is a friend of users 8 and 9. -/
def fork : World :=
  { World.empty 1 .ofNat with
    graph := (FriendGraph.empty.addFriendship (.ofNat 7) (.ofNat 8)).addFriendship (.ofNat 7) (.ofNat 9) }

/-- A post by each of the two. -/
def notes : List Post := [⟨.ofNat 1, .ofNat 8, "a"⟩, ⟨.ofNat 2, .ofNat 9, "b"⟩]

/-- They are created in turns. -/
def turns : List Nat := [0, 1, 1, 0, 0, 1, 1, 0, 0, 1, 1, 0, 0, 1, 1, 0]

def mixed : List (Nat × Made) × Crowd (Except FeedError PostId) :=
  Crowd.follow ⟨notes.map fun post => Service.createPost { capacity := 4 } post.author post, fork⟩ turns

theorem together_mixed : Together { capacity := 4 } notes fork mixed.1 mixed.2 where
  built := .addFriendship (.ofNat 7) (.ofNat 9) (.addFriendship (.ofNat 7) (.ofNat 8) .empty)
  running := rfl
  exact := .empty
  fresh := by decide
  distinct := by decide
  runs := Crowd.Runs.start.follow turns

theorem returned_mixed : Returned mixed.2 := by
  have ended : mixed.2.tasks = [.done (.ok (.ofNat 1)), .done (.ok (.ofNat 2))] := rfl
  intro t member
  rw [ended] at member
  rcases List.mem_pair.mp member with rfl | rfl
  · exact ⟨_, rfl⟩
  · exact ⟨_, rfl⟩

theorem once_each_mixed : (pushedIn (.ofNat 7) mixed.1).Perm (notes.map .snapshot) ∧
    mixed.2.world.cache.feed? (.ofNat 7) = some ((pushedIn (.ofNat 7) mixed.1).take 4) := by
  obtain ⟨-, -, whole⟩ := once_each together_mixed
  obtain ⟨-, -, feeds⟩ := whole returned_mixed
  obtain ⟨pushed, held, -⟩ := feeds (.ofNat 7)
  exact ⟨pushed, held⟩

end Together
end FeedFanout
