import FeedFanout.Proofs.Crowds
import FeedFanout.Proofs.Faults

/-!
Pushes in two halves. A cache without a push of its own puts the entry in front of the feed, and then trims the feed.
Others may come between, and the second half may fail or never be made. A feed can then be too long for a while, but as
far as feeds go it begins with the same entries as if every push were one step (`pushes_in_two`).
-/
namespace FeedFanout

/-- A push that is not one step: the feed is trimmed once the entry stands in front of it. -/
def Task.pushInTwo (user : UserId) (entry : FeedEntry) (cap : Nat) : Task (Except CacheError Unit) := do
  match ← Task.call (.prepend user entry) with
  | .error e => return .error e
  | .ok () => Task.call (.trim user cap)

/-- What is done to a user's feed. -/
inductive Upkeep
  | push (user : UserId) (entry : FeedEntry)
  | rebuild (user : UserId) (entries : List FeedEntry)

namespace Upkeep

def task (cap : Nat) : Upkeep → Task (Except CacheError Unit)
  | push user entry => Task.pushInTwo user entry cap
  | rebuild user entries => Task.call (.rebuild user entries cap)

/-- The calls so far. -/
inductive Steps (cap : Nat) : Upkeep → List Made → Prop
  | begun (upkeep : Upkeep) : Steps cap upkeep []
  | prepended {user : UserId} {entry : FeedEntry} (reply : Except CacheError Unit) :
      Steps cap (push user entry) [⟨.prepend user entry, some reply⟩]
  | trimmed {user : UserId} {entry : FeedEntry} (reply : Except CacheError Unit) :
      Steps cap (push user entry) [⟨.prepend user entry, some (.ok ())⟩, ⟨.trim user cap, some reply⟩]
  | rebuilt {user : UserId} {entries : List FeedEntry} (reply : Except CacheError Unit) :
      Steps cap (rebuild user entries) [⟨.rebuild user entries cap, some reply⟩]

/-- The calls of a task that has succeeded. -/
def calls (cap : Nat) : Upkeep → List Made
  | push user entry => [⟨.prepend user entry, some (.ok ())⟩, ⟨.trim user cap, some (.ok ())⟩]
  | rebuild user entries => [⟨.rebuild user entries cap, some (.ok ())⟩]

theorem goes_task {cap : Nat} {made : List Made} {upkeep : Upkeep} {t : Task (Except CacheError Unit)}
    (goes : (upkeep.task cap).Goes made t) :
    Steps cap upkeep made ∧ (t = .done (.ok ()) → made = upkeep.calls cap) := by
  cases upkeep with
  | push user entry =>
    change Task.Goes (.ask _ _) made t at goes
    obtain _ | _ | @⟨_, _, reply, _, made, goes⟩ := goes
    · exact ⟨.begun _, nofun⟩
    cases reply with
    | error e =>
      cases goes
      exact ⟨.prepended _, nofun⟩
    | ok done =>
      change Task.Goes (.ask _ _) made t at goes
      obtain _ | _ | @⟨_, _, reply, _, made, goes⟩ := goes
      · exact ⟨.prepended _, nofun⟩
      cases goes
      refine ⟨.trimmed _, ?_⟩
      intro good
      cases good
      rfl
  | rebuild user entries =>
    change Task.Goes (.ask _ _) made t at goes
    obtain _ | _ | ⟨goes⟩ := goes
    · exact ⟨.begun _, nofun⟩
    cases goes
    refine ⟨.rebuilt _, ?_⟩
    intro good
    cases good
    rfl

end Upkeep

/-! ### What calls do to one feed -/

/-- What a call does to a user's feed. -/
inductive Touch
  | none
  | add (entry : FeedEntry)
  | cut
  | renew (entries : List FeedEntry)

namespace Touch

/-- The feed after it. -/
def apply (cap : Nat) (feed : List FeedEntry) : Touch → List FeedEntry
  | none => feed
  | add entry => entry :: feed
  | cut => feed.take cap
  | renew entries => entries.take cap

/-- The feed after it, where an entry comes in and the feed is trimmed in one step. -/
def atOnce (cap : Nat) (feed : List FeedEntry) : Touch → List FeedEntry
  | none | cut => feed
  | add entry => (entry :: feed).take cap
  | renew entries => entries.take cap

def added? : Touch → Option FeedEntry
  | add entry => some entry
  | _ => Option.none

def Renews : Touch → Prop
  | renew _ => True
  | _ => False

/-- The feed is not too long after it. -/
def Bounds : Touch → Prop
  | cut | renew _ => True
  | _ => False

/-- The entries that came in, newest first. -/
def added (touches : List Touch) : List FeedEntry := (touches.filterMap added?).reverse

end Touch

namespace Made

def touch (user : UserId) (made : Made) : Touch :=
  if made.succeeded then
    match made.call with
    | .prepend other entry => if other = user then .add entry else .none
    | .trim other _ => if other = user then .cut else .none
    | .rebuild other entries _ => if other = user then .renew entries else .none
    | _ => .none
  else .none

theorem touch_prepend (user : UserId) (entry : FeedEntry) :
    touch user ⟨.prepend user entry, some (.ok ())⟩ = .add entry := by
  rw [touch, if_pos (by rfl)]
  exact if_pos rfl

theorem touch_trim (user : UserId) (cap : Nat) : touch user ⟨.trim user cap, some (.ok ())⟩ = .cut := by
  rw [touch, if_pos (by rfl)]
  exact if_pos rfl

end Made

/-- The calls of pushes in two and rebuilds where a feed holds so many entries. -/
def Call.Shapes (cap : Nat) : Call → Prop
  | .prepend .. => True
  | .trim _ room | .rebuild _ _ room => room = cap
  | _ => False

/-- A cache that carries out a push in one step, at the moment when the entry comes in. -/
def FeedCache.atOnce (cap : Nat) (cache : FeedCache) (made : Made) : FeedCache :=
  if made.succeeded then
    match made.call with
    | .prepend user entry => cache.push user entry cap
    | .rebuild user entries room => cache.rebuild user entries room
    | _ => cache
  else cache

theorem World.Falters.touch {w w' : World} {made : Made} (falters : Falters w made w') {cap : Nat}
    (shapes : made.call.Shapes cap) (user : UserId) :
    w'.cache.feed user = (made.touch user).apply cap (w.cache.feed user) := by
  obtain ⟨call, rfl, rfl, good⟩ | ⟨bad, rfl⟩ := falters.effect
  · rw [Made.touch, if_pos good]
    cases call with
    | prepend other entry =>
      change (w.cache.prepend other entry).feed user = _
      rw [FeedCache.feed_prepend]
      by_cases mine : user = other
      · simp [mine, Touch.apply]
      · simp [mine, Ne.symm mine, Touch.apply]
    | trim other room =>
      obtain rfl : room = cap := shapes
      change (w.cache.trim other room).feed user = _
      rw [FeedCache.feed_trim]
      by_cases mine : user = other
      · simp [mine, Touch.apply]
      · simp [mine, Ne.symm mine, Touch.apply]
    | rebuild other entries room =>
      obtain rfl : room = cap := shapes
      change (w.cache.rebuild other entries room).feed user = _
      rw [FeedCache.feed_rebuild]
      by_cases mine : user = other
      · simp [mine, Touch.apply]
      · simp [mine, Ne.symm mine, Touch.apply]
    | _ => cases shapes
  · rw [Made.touch, bad]
    rfl

theorem FeedCache.feed_atOnce (cache : FeedCache) {made : Made} {cap : Nat} (shapes : made.call.Shapes cap)
    (user : UserId) : (cache.atOnce cap made).feed user = (made.touch user).atOnce cap (cache.feed user) := by
  obtain ⟨call, reply⟩ := made
  unfold FeedCache.atOnce Made.touch
  by_cases good : Made.succeeded ⟨call, reply⟩ = true
  · rw [if_pos good, if_pos good]
    cases call with
    | prepend other entry =>
      simp only [feed_push]
      by_cases mine : user = other
      · simp [mine, Touch.atOnce]
      · simp [mine, Ne.symm mine, Touch.atOnce]
    | trim other room => by_cases mine : other = user <;> simp [mine, Touch.atOnce]
    | rebuild other entries room =>
      obtain rfl : room = cap := shapes
      simp only [feed_rebuild]
      by_cases mine : user = other
      · simp [mine, Touch.atOnce]
      · simp [mine, Ne.symm mine, Touch.atOnce]
    | _ => cases shapes
  · rw [if_neg good, if_neg good]
    rfl

namespace Touch
variable {cap : Nat}

theorem added_cons (touch : Touch) (touches : List Touch) :
    added (touch :: touches) = added touches ++ touch.added?.toList := by
  cases came : touch.added? <;> simp [added, came]

/-- Two feeds that begin alike still do. -/
theorem take_apply {long short : List FeedEntry} (alike : long.take cap = short.take cap) (touch : Touch) :
    (touch.apply cap long).take cap = (touch.atOnce cap short).take cap := by
  cases touch with
  | none => exact alike
  | add entry =>
    have front := congrArg (fun feed => ([entry] ++ feed).take cap) alike
    simp only [take_append_take] at front
    simpa [apply, atOnce, List.take_take] using front
  | cut => simpa [apply, atOnce, List.take_take] using alike
  | renew entries => rfl

theorem take_foldl {long short : List FeedEntry} (alike : long.take cap = short.take cap) (touches : List Touch) :
    (touches.foldl (apply cap) long).take cap = (touches.foldl (atOnce cap) short).take cap := by
  induction touches generalizing long short with
  | nil => exact alike
  | cons touch touches ih => exact ih (take_apply alike touch)

/-- A feed that is not renewed begins with the entries that came in, and then with those that it had. -/
theorem take_added (feed : List FeedEntry) {touches : List Touch} (kept : ∀ touch ∈ touches, ¬touch.Renews) :
    (touches.foldl (apply cap) feed).take cap = (added touches ++ feed).take cap := by
  induction touches generalizing feed with
  | nil => rfl
  | cons touch touches ih =>
    obtain ⟨same, kept⟩ := List.forall_mem_cons.mp kept
    rw [List.foldl_cons, ih _ kept, added_cons]
    cases touch with
    | none => simp [apply, added?]
    | add entry => simp [apply, added?]
    | cut => simpa [apply, added?] using take_append_take (added touches) feed cap
    | renew entries => exact absurd trivial same

theorem take_renewed (feed : List FeedEntry) {before after : List Touch} {entries : List FeedEntry}
    (kept : ∀ touch ∈ after, ¬touch.Renews) :
    ((before ++ renew entries :: after).foldl (apply cap) feed).take cap =
      (added after ++ entries.take cap).take cap := by
  rw [List.foldl_append, List.foldl_cons, take_added _ kept]
  rfl

theorem foldl_still {touches : List Touch} (still : ∀ touch ∈ touches, touch = none) (feed : List FeedEntry) :
    touches.foldl (apply cap) feed = feed := by
  induction touches with
  | nil => rfl
  | cons touch touches ih =>
    obtain ⟨rfl, later⟩ := List.forall_mem_cons.mp still
    exact ih later

/-- A feed that is cut or renewed and then left alone is not too long. -/
theorem length_le (feed : List FeedEntry) {before after : List Touch} {touch : Touch} (bounds : touch.Bounds)
    (still : ∀ later ∈ after, later = none) :
    ((before ++ touch :: after).foldl (apply cap) feed).length ≤ cap := by
  rw [List.foldl_append, List.foldl_cons, foldl_still still]
  cases touch with
  | none | add => cases bounds
  | cut | renew => exact List.length_take_le ..

end Touch

/-! ### Runs -/

theorem World.Plays.touches {w w' : World} {calls : List Made} (plays : Plays Falters w calls w') {cap : Nat}
    (shapes : ∀ made ∈ calls, made.call.Shapes cap) (user : UserId) :
    w'.cache.feed user = (calls.map (·.touch user)).foldl (Touch.apply cap) (w.cache.feed user) := by
  induction calls generalizing w with
  | nil => cases plays; rfl
  | cons made calls ih =>
    obtain _ | ⟨falters, later⟩ := plays
    obtain ⟨shape, shapes⟩ := List.forall_mem_cons.mp shapes
    rw [ih later shapes, falters.touch shape, List.map_cons, List.foldl_cons]

theorem FeedCache.feed_foldl_atOnce (cache : FeedCache) {calls : List Made} {cap : Nat}
    (shapes : ∀ made ∈ calls, made.call.Shapes cap) (user : UserId) :
    (calls.foldl (FeedCache.atOnce cap) cache).feed user =
      (calls.map (·.touch user)).foldl (Touch.atOnce cap) (cache.feed user) := by
  induction calls generalizing cache with
  | nil => rfl
  | cons made calls ih =>
    obtain ⟨shape, shapes⟩ := List.forall_mem_cons.mp shapes
    rw [List.foldl_cons, ih _ shapes, feed_atOnce _ shape, List.map_cons, List.foldl_cons]

/-- Feeds that begin alike are read alike, as far as they do. -/
theorem FeedCache.read_eq {long short : FeedCache} {user : UserId} {cap : Nat}
    (alike : (long.feed user).take cap = (short.feed user).take cap) {offset : Nat} {limit : Bound}
    (inside : offset + limit.val ≤ cap) : long.read user offset (some limit) = short.read user offset (some limit) := by
  have cut (feed : List FeedEntry) :
      (feed.drop offset).take limit.val = ((feed.take cap).drop offset).take limit.val := by
    rw [List.drop_take, List.take_take, Nat.min_eq_left (by omega)]
  simp only [read, Window.bounded]
  rw [cut, alike, ← cut]

theorem Upkeep.Steps.shapes {cap : Nat} {upkeep : Upkeep} {calls : List Made} (steps : Steps cap upkeep calls) :
    ∀ made ∈ calls, made.call.Shapes cap := by
  cases steps <;> simp [Call.Shapes]

/-- The push with this number has brought its entry into the user's feed. -/
def Entered (user : UserId) (trace : List (Nat × Made)) (i : Nat) : Prop :=
  ∃ entry, (i, ⟨.prepend user entry, some (.ok ())⟩) ∈ trace

theorem Made.eq_of_add {user : UserId} {entry : FeedEntry} {made : Made} (adds : made.touch user = .add entry) :
    made = ⟨.prepend user entry, some (.ok ())⟩ := by
  obtain ⟨call, reply⟩ := made
  unfold touch at adds
  by_cases good : succeeded ⟨call, reply⟩ = true
  · rw [if_pos good] at adds
    cases call with
    | prepend other brought =>
      dsimp only at adds
      split at adds
      · cases adds
        subst_vars
        obtain _ | e | done := reply
        · cases good
        · cases good
        · rfl
      · cases adds
    | trim | rebuild => dsimp only at adds; split at adds <;> cases adds
    | _ => cases adds
  · rw [if_neg good] at adds
    cases adds

namespace Upkeep
variable {cap : Nat} {upkeeps : List Upkeep} {w : World} {trace : List (Nat × Made)}
  {c : Crowd (Except CacheError Unit)}

/-- What a task has done, and what is left of it. -/
theorem goes_own (runs : Crowd.Runs World.Falters ⟨upkeeps.map (·.task cap), w⟩ trace c) {i : Nat} {made : Made}
    (member : (i, made) ∈ trace) :
    ∃ (upkeep : Upkeep) (rest : _), c.tasks[i]? = some rest ∧ (upkeep.task cap).Goes (own i trace) rest := by
  obtain ⟨t, begun⟩ := runs.caller member
  obtain ⟨upkeep, listed, rfl⟩ : ∃ upkeep, upkeeps[i]? = some upkeep ∧ upkeep.task cap = t := by
    simpa using begun
  obtain ⟨rest, left, goes⟩ := runs.goes begun
  exact ⟨upkeep, rest, left, goes⟩

theorem shapes (runs : Crowd.Runs World.Falters ⟨upkeeps.map (·.task cap), w⟩ trace c) :
    ∀ made ∈ trace.map (·.2), made.call.Shapes cap := by
  intro made member
  obtain ⟨⟨i, made⟩, inside, rfl⟩ := List.mem_map.mp member
  obtain ⟨upkeep, rest, -, goes⟩ := goes_own runs inside
  exact (goes_task goes).1.shapes _ (mem_own.mpr inside)

/-- A push that is done has trimmed the feed after its entry came in. -/
theorem trims (runs : Crowd.Runs World.Falters ⟨upkeeps.map (·.task cap), w⟩ trace c) {before after : List (Nat × Made)}
    {i : Nat} {user : UserId} {entry : FeedEntry}
    (split : trace = before ++ (i, ⟨.prepend user entry, some (.ok ())⟩) :: after)
    (done : c.tasks[i]? = some (.done (.ok ()))) : (i, ⟨.trim user cap, some (.ok ())⟩) ∈ after := by
  have member : (i, (⟨.prepend user entry, some (.ok ())⟩ : Made)) ∈ trace := by simp [split]
  obtain ⟨upkeep, rest, left, goes⟩ := goes_own runs member
  obtain rfl : rest = .done (.ok ()) := by simpa [left] using done
  have parts : own i trace = own i before ++ ⟨.prepend user entry, some (.ok ())⟩ :: own i after := by
    simp [split, own]
  rw [(goes_task goes).2 rfl] at parts
  rw [← mem_own]
  -- Of the calls of a task the first alone can bring an entry in.
  generalize own i before = earlier at parts
  cases upkeep with
  | push other pushed =>
    rcases earlier with _ | ⟨first, _ | ⟨second, earlier⟩⟩
    · obtain ⟨same, later⟩ := List.cons.inj parts
      cases same
      rw [← later]
      exact List.mem_singleton_self _
    · simp [calls] at parts
    · simp [calls] at parts
  | rebuild other entries =>
    rcases earlier with _ | ⟨first, earlier⟩
    · simp [calls] at parts
    · simp [calls] at parts

/-- The feed is what the calls so far have made of it. -/
theorem feed_eq (runs : Crowd.Runs World.Falters ⟨upkeeps.map (·.task cap), w⟩ trace c) (user : UserId) :
    c.world.cache.feed user = (trace.map (·.2.touch user)).foldl (Touch.apply cap) (w.cache.feed user) := by
  have touched := runs.plays.touches (shapes runs) user
  rwa [List.map_map] at touched

theorem length_feed_le (runs : Crowd.Runs World.Falters ⟨upkeeps.map (·.task cap), w⟩ trace c) {user : UserId}
    {before after : List (Nat × Made)} {last : Nat × Made} (split : trace = before ++ last :: after)
    (bounds : (last.2.touch user).Bounds) (still : ∀ later ∈ after, later.2.touch user = .none) :
    (c.world.cache.feed user).length ≤ cap := by
  rw [feed_eq runs, split, List.map_append, List.map_cons]
  exact Touch.length_le _ bounds (List.forall_mem_map.mpr still)

/-- When the pushes are done a feed that got an entry is not too long. -/
theorem length_feed_le_of_done (runs : Crowd.Runs World.Falters ⟨upkeeps.map (·.task cap), w⟩ trace c) {user : UserId}
    (entered : ∃ i, Entered user trace i) (done : ∀ i, Entered user trace i → c.tasks[i]? = some (.done (.ok ()))) :
    (c.world.cache.feed user).length ≤ cap := by
  obtain ⟨i, entry, entered⟩ := entered
  have touched : ∃ step ∈ trace, step.2.touch user ≠ .none := ⟨_, entered, by rw [Made.touch_prepend]; nofun⟩
  obtain ⟨before, ⟨j, made⟩, after, split, touches, still⟩ := exists_last touched
  have still : ∀ later ∈ after, later.2.touch user = .none := fun later inside => not_not.mp (still later inside)
  refine length_feed_le runs split ?_ still
  cases touch : made.touch user with
  | none => exact absurd touch touches
  | cut | renew => trivial
  | add entry =>
    -- The push that has brought it in is done, and so it has trimmed the feed afterwards.
    obtain rfl := Made.eq_of_add touch
    have trimmed := trims runs split (done j ⟨entry, by simp [split]⟩)
    have left := still _ trimmed
    rw [Made.touch_trim] at left
    cases left

end Upkeep

/-- Pushes in two halves, with failures, in any order, beside rebuilds: a feed begins with the entries that came in
since the last rebuild, newest first, and then with those of that rebuild, or those that it had. So a reader gets what
there would be if every push were one step. After a trim or a rebuild the feed is not too long, nor is it when the pushes
that got their entries in are done. -/
theorem pushes_in_two {cap : Nat} {upkeeps : List Upkeep} {w : World} {trace : List (Nat × Made)}
    {c : Crowd (Except CacheError Unit)} (runs : Crowd.Runs World.Falters ⟨upkeeps.map (·.task cap), w⟩ trace c)
    (user : UserId) :
    ((∀ step ∈ trace, ¬(step.2.touch user).Renews) →
      (c.world.cache.feed user).take cap =
        (Touch.added (trace.map (·.2.touch user)) ++ w.cache.feed user).take cap) ∧
    (∀ before rebuild entries after, trace = before ++ rebuild :: after → rebuild.2.touch user = .renew entries →
      (∀ step ∈ after, ¬(step.2.touch user).Renews) →
      (c.world.cache.feed user).take cap =
        (Touch.added (after.map (·.2.touch user)) ++ entries.take cap).take cap) ∧
    (∀ offset (limit : Bound), offset + limit.val ≤ cap →
      c.world.cache.read user offset (some limit) =
        ((trace.map (·.2)).foldl (FeedCache.atOnce cap) w.cache).read user offset (some limit)) ∧
    (∀ before last, trace = before ++ [last] → (last.2.touch user).Bounds →
      (c.world.cache.feed user).length ≤ cap) ∧
    ((∃ i, Entered user trace i) → (∀ i, Entered user trace i → c.tasks[i]? = some (.done (.ok ()))) →
      (c.world.cache.feed user).length ≤ cap) := by
  refine ⟨?_, ?_, ?_, ?_, Upkeep.length_feed_le_of_done runs⟩
  · intro kept
    rw [Upkeep.feed_eq runs]
    exact Touch.take_added _ (List.forall_mem_map.mpr kept)
  · intro before rebuild entries after split renews kept
    rw [Upkeep.feed_eq runs, split, List.map_append, List.map_cons, renews]
    exact Touch.take_renewed _ (List.forall_mem_map.mpr kept)
  · intro offset limit inside
    refine FeedCache.read_eq ?_ inside
    rw [Upkeep.feed_eq runs, FeedCache.feed_foldl_atOnce _ (Upkeep.shapes runs), List.map_map]
    exact Touch.take_foldl rfl _
  · intro before last split bounds
    exact Upkeep.length_feed_le runs split bounds nofun

/-- A feed for one entry, with two pushes of which neither has come to its end when it is read, and one when it is
trimmed. -/
theorem pushes_in_two_amid :
    let entry (n : UInt8) : FeedEntry := ⟨⟨#[n]⟩⟩
    let upkeeps : List Upkeep := [.push (.ofNat 7) (entry 1), .push (.ofNat 7) (entry 2)]
    let start : Crowd (Except CacheError Unit) := ⟨upkeeps.map (·.task 1), .empty 1 .ofNat⟩
    let world (schedule : List Nat) : World := (start.follow schedule).2.world
    (world [0, 1]).cache.feed (.ofNat 7) = [entry 2, entry 1] ∧
      (world [0, 1]).cache.read (.ofNat 7) 0 (some 1) = [entry 2] ∧
      ((world [0, 1, 0]).cache.feed (.ofNat 7)).length ≤ 1 := by
  intro entry upkeeps start world
  have runs (schedule : List Nat) :
      Crowd.Runs World.Falters start (start.follow schedule).1 (start.follow schedule).2 :=
    (Crowd.Runs.start.follow schedule).mono World.Serves.falters
  obtain ⟨-, -, read, -, -⟩ := pushes_in_two (runs [0, 1]) (.ofNat 7)
  obtain ⟨-, -, -, short, -⟩ := pushes_in_two (runs [0, 1, 0]) (.ofNat 7)
  refine ⟨by rfl, (read 0 1 (by decide)).trans (by rfl), ?_⟩
  refine short (start.follow [0, 1]).1 (0, ⟨.trim (.ofNat 7) 1, some (.ok ())⟩) (by rfl) ?_
  rw [Made.touch_trim]
  trivial

end FeedFanout
