import FeedFanout.Proofs.Delivery
import FeedFanout.Proofs.Warming
import FeedFanout.Proofs.WireForm
import Mathlib.Data.List.Pairwise

/-!
Posting and warming beside each other, in any order of their calls. No two operations store posts with the same
identifier (`Overlap.unique`), what is pushed to a user is the snapshot of a friend's post that was stored before
(`Overlap.pushed`), and it is pushed once (`Overlap.pushed_once`).
-/
namespace FeedFanout

/-- Operations that go on beside each other. -/
inductive Activity
  | create (author : UserId) (post : Post)
  | warm (user : UserId)

/-- What comes of an operation. -/
inductive Outcome
  | created (answer : Except FeedError PostId)
  | warmed (answer : Except WarmError Unit)

def Outcome.IsOk : Outcome → Prop
  | .created answer => ∃ id, answer = .ok id
  | .warmed answer => answer = .ok ()

namespace Activity
variable {s : Service} {wm : Warmer}

def task (s : Service) (wm : Warmer) : Activity → Task Outcome
  | .create author post => (s.createPost author post).bind fun answer => .done (.created answer)
  | .warm user => (wm.warmUser user).bind fun answer => .done (.warmed answer)

/-- The post of an operation that creates one. -/
def post? : Activity → Option Post
  | .create _ post => some post
  | .warm _ => none

/-- The calls that an operation has made so far. -/
inductive Steps (s : Service) (wm : Warmer) : Activity → List Made → Prop
  | create {author : UserId} {post : Post} {calls : List Made} (steps : s.Steps post calls) :
      Steps s wm (.create author post) calls
  | warm {user : UserId} {calls : List Made} (steps : wm.Steps user calls) : Steps s wm (.warm user) calls

theorem steps {activity : Activity} {calls : List Made} {t : Task Outcome} (goes : (activity.task s wm).Goes calls t) :
    activity.Steps s wm calls := by
  cases activity with
  | create author post =>
    obtain ⟨rest, inside, -⟩ := Task.Goes.of_map (t := s.createPost author post) goes
    exact .create (Service.goes_createPost inside).1
  | warm user =>
    obtain ⟨rest, inside, -⟩ := Task.Goes.of_map (t := wm.warmUser user) goes
    exact .warm (wm.goes_warmUser inside).1

theorem created {author : UserId} {post : Post} {calls : List Made} {outcome : Outcome}
    (goes : ((create author post).task s wm).Goes calls (.done outcome)) (ok : outcome.IsOk) :
    ∃ friends later, calls = ⟨.append post, some (.ok ())⟩ :: ⟨.friendsOf post.author, some (.ok friends)⟩ :: later ∧
      pushedUsers later = Service.targets post friends := by
  obtain ⟨rest, inside, done⟩ := Task.Goes.of_map (t := s.createPost author post) goes
  obtain ⟨answer, rfl, rfl⟩ := done outcome rfl
  obtain ⟨id, rfl⟩ := ok
  exact (Service.goes_createPost inside).2 id rfl

end Activity

/-- The entry is a copy of the post with this identifier. -/
def FeedEntry.shows (entry : FeedEntry) (id : PostId) : Bool :=
  match entry.decode with
  | .ok post => post.id = id
  | .error _ => false

@[simp] theorem FeedEntry.shows_snapshot (post : Post) (id : PostId) :
    (snapshot post).shows id = decide (post.id = id) := by
  simp [shows, decode_snapshot]

/-- Posting and warming beside each other, without faults, from an empty store and an empty cache. -/
structure Overlap (s : Service) (wm : Warmer) (activities : List Activity) (w : World) (trace : List (Nat × Made))
    (c : Crowd Outcome) : Prop where
  built : w.graph.Built
  unwritten : w.log = .empty
  unread : w.cache = .empty
  runs : Crowd.Runs World.Serves ⟨activities.map (·.task s wm), w⟩ trace c

theorem Warmer.Steps.pushed {wm : Warmer} {user : UserId} {calls : List Made} (steps : wm.Steps user calls) :
    ∀ made ∈ calls, ∀ other, made.pushed? other = none := by
  cases steps <;> simp [Made.pushed?]

theorem Warmer.Steps.plain {wm : Warmer} {user : UserId} {calls : List Made} (steps : wm.Steps user calls) :
    ∀ made ∈ calls, made.call.Plain wm.capacity := by
  cases steps <;> simp [Call.Plain]

namespace Overlap
variable {s : Service} {wm : Warmer} {activities : List Activity} {w : World} {trace : List (Nat × Made)}
  {c : Crowd Outcome}

theorem steps (overlap : Overlap s wm activities w trace c) {i : Nat} {made : Made} (member : (i, made) ∈ trace) :
    ∃ activity, activities[i]? = some activity ∧ activity.Steps s wm (own i trace) := by
  obtain ⟨t, begun⟩ := overlap.runs.caller member
  obtain ⟨activity, listed, rfl⟩ : ∃ activity, activities[i]? = some activity ∧ activity.task s wm = t := by
    simpa using begun
  obtain ⟨rest, -, goes⟩ := overlap.runs.goes begun
  exact ⟨activity, listed, Activity.steps goes⟩

theorem posts (overlap : Overlap s wm activities w trace c) : c.world.log.posts = storedIn trace := by
  rw [overlap.runs.plays.log_posts, overlap.unwritten]
  exact List.append_nil _

theorem exact (overlap : Overlap s wm activities w trace c) : c.world.log.Exact :=
  (overlap.runs.plays.mono World.Serves.falters).exact (overlap.unwritten ▸ .empty)

/-- What two calls store, if they do, does not share an identifier. -/
def Apart (a b : Nat × Made) : Prop := ∀ p, a.2.stored? = some p → ∀ q, b.2.stored? = some q → q.id ≠ p.id

instance : Std.Symm Apart := ⟨fun _ _ apart q other p one same => apart p one q other same.symm⟩

/-- No two operations store posts with the same identifier. -/
theorem unique (overlap : Overlap s wm activities w trace c) {i j : Nat} {first second : Post}
    (left : (i, ⟨.append first, some (.ok ())⟩) ∈ trace) (right : (j, ⟨.append second, some (.ok ())⟩) ∈ trace)
    (same : first.id = second.id) : i = j := by
  have distinct := overlap.exact.distinct
  rw [overlap.posts, storedIn, List.map_reverse, List.Nodup, List.pairwise_reverse, List.pairwise_map,
    List.pairwise_filterMap] at distinct
  change trace.Pairwise Apart at distinct
  by_contra apart
  have differ : Apart _ _ := List.Pairwise.forall distinct left right (by simp [apart])
  exact differ first rfl second rfl same.symm

theorem plain (overlap : Overlap s wm activities w trace c) (alike : wm.capacity = s.capacity) :
    ∀ step ∈ trace, step.2.call.Plain s.capacity := by
  rintro ⟨i, made⟩ member
  have mine := mem_own.mpr member
  obtain ⟨activity, -, steps⟩ := overlap.steps member
  cases steps with
  | create steps => exact steps.plain _ mine
  | warm steps => exact alike ▸ steps.plain _ mine

theorem friends (overlap : Overlap s wm activities w trace c) {i : Nat} {user : UserId} {friends : List UserId}
    (member : (i, ⟨.friendsOf user, some (.ok friends)⟩) ∈ trace) : friends = w.graph.friendsOf user := by
  obtain ⟨before, after, rfl⟩ := List.append_of_mem member
  obtain ⟨w₁, w₂, earlier, serves, -⟩ := overlap.runs.plays_at
  have same : w₁.graph = w.graph := (earlier.mono World.Serves.falters).graph
  cases serves
  rw [same]

/-- A post is stored by the operation that creates it. -/
theorem author (overlap : Overlap s wm activities w trace c) {i : Nat} {made : Made} (member : (i, made) ∈ trace)
    {post : Post} (stored : made.stored? = some post) : ∃ author, activities[i]? = some (.create author post) := by
  have mine := mem_own.mpr member
  obtain ⟨activity, listed, steps⟩ := overlap.steps member
  have append : made.call = .append post := by
    unfold Made.stored? at stored
    split at stored <;> simp at stored
    rw [stored]
  cases steps with
  | warm steps => simpa [append, Warmer.Makes] using steps.makes _ made mine
  | @create author other _ steps =>
    obtain same | same | ⟨user, same⟩ | ⟨user, same⟩ := steps.among mine
    all_goals rw [append] at same; cases same
    exact ⟨author, listed⟩

/-- What is pushed to a user is the snapshot of a friend's post that the same operation has stored. -/
theorem pushed (overlap : Overlap s wm activities w trace c) {i : Nat} {made : Made} (member : (i, made) ∈ trace)
    {user : UserId} {entry : FeedEntry} (pushed : made.pushed? user = some entry) :
    ∃ author post, activities[i]? = some (.create author post) ∧ entry = .snapshot post ∧
      (i, ⟨.append post, some (.ok ())⟩) ∈ trace ∧ post.author ∈ w.graph.friendsOf user := by
  have mine := mem_own.mpr member
  obtain ⟨activity, listed, steps⟩ := overlap.steps member
  cases steps with
  | warm steps => simp [steps.pushed _ mine user] at pushed
  | @create author post _ steps =>
    obtain ⟨snapshot, stored, friends, known, target⟩ := steps.pushed mine pushed
    refine ⟨author, post, listed, snapshot, mem_own.mp stored, ?_⟩
    rw [overlap.friends (mem_own.mp known)] at target
    exact (Service.target_iff overlap.built).mp target

/-- An operation pushes to a user once. -/
theorem own_once (overlap : Overlap s wm activities w trace c) {i : Nat} {made : Made} (member : (i, made) ∈ trace)
    (user : UserId) : (own i trace).countP (fun made => (made.pushed? user).isSome) ≤ 1 := by
  obtain ⟨activity, -, steps⟩ := overlap.steps member
  cases steps with
  | create steps =>
    refine steps.once ?_ user
    intro friends known
    rw [overlap.friends (mem_own.mp known)]
    exact w.graph.nodup_friendsOf _
  | warm steps =>
    rw [List.countP_eq_zero.mpr fun made mine => by simp [steps.pushed made mine user]]
    exact Nat.zero_le 1

/-- A post comes to be pushed by one operation. -/
theorem pushed_alone (overlap : Overlap s wm activities w trace c) {i j : Nat} {made other : Made}
    (left : (i, made) ∈ trace) (right : (j, other) ∈ trace) {user : UserId} {id : PostId}
    (pushes : (made.pushed? user).any (·.shows id)) (pushes' : (other.pushed? user).any (·.shows id)) : i = j := by
  obtain ⟨entry, pushed, shows⟩ := (Option.any_eq_true ..).mp pushes
  obtain ⟨entry', pushed', shows'⟩ := (Option.any_eq_true ..).mp pushes'
  obtain ⟨-, post, -, rfl, stored, -⟩ := overlap.pushed left pushed
  obtain ⟨-, post', -, rfl, stored', -⟩ := overlap.pushed right pushed'
  have first : post.id = id := by simpa using shows
  have second : post'.id = id := by simpa using shows'
  exact overlap.unique stored stored' (first.trans second.symm)

/-- A post comes to be pushed to a user once. -/
theorem pushed_once (overlap : Overlap s wm activities w trace c) (user : UserId) (id : PostId) :
    (pushedIn user trace).countP (·.shows id) ≤ 1 := by
  have counted : (pushedIn user trace).countP (·.shows id) =
      trace.countP fun step => (step.2.pushed? user).any (·.shows id) := by
    rw [pushedIn, List.countP_reverse, List.countP_filterMap]
    refine List.countP_congr ?_
    intro step _
    cases step.2.pushed? user <;> simp
  rw [counted]
  by_cases some : ∃ step ∈ trace, (step.2.pushed? user).any (·.shows id)
  · obtain ⟨⟨i, made⟩, member, pushes⟩ := some
    calc trace.countP (fun step => (step.2.pushed? user).any (·.shows id))
      _ ≤ trace.countP (fun step => (step.2.pushed? user).isSome && decide (step.1 = i)) := by
        refine List.countP_mono_left ?_
        rintro ⟨j, other⟩ inside pushes'
        obtain rfl := overlap.pushed_alone member inside pushes pushes'
        obtain ⟨entry, pushed, -⟩ := (Option.any_eq_true ..).mp pushes'
        simp [pushed]
      _ = (own i trace).countP (fun made => (made.pushed? user).isSome) := by
        rw [own, List.countP_map, List.countP_filter]; rfl
      _ ≤ 1 := overlap.own_once member user
  · rw [List.countP_eq_zero.mpr fun step member pushes => some ⟨step, member, pushes⟩]
    exact Nat.zero_le 1

end Overlap
end FeedFanout
