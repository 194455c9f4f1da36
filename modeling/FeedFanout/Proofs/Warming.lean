import FeedFanout.Proofs.Crowds
import FeedFanout.Warm.Warmer

/-!
Warming. A rebuild asks for friends, then for posts, then writes the feed (`Warmer.goes_warmUser`). Rebuilds beside each
other, in any order and with any faults, write what the feeds are to be now (`Warmer.rebuilt_fresh`), so that a clean
report means that every known user's feed is up to date (`Warmer.ends_warmAll`).
-/
namespace FeedFanout

namespace Warmer
variable (wm : Warmer)

theorem select_window {α : Type} (xs : List α) : wm.window.select xs = xs.take (min wm.capacity Window.largest) := rfl

/-! ### One user -/

theorem run_warmUser (user : UserId) (w : World) :
    (wm.warmUser user).run w =
      (.ok (), (w.perform (.rebuild user ((w.log.query (w.graph.friendsOf user) wm.window).map .snapshot)
        wm.capacity)).world) := by
  rw [warmUser_eq]
  rfl

/-- The calls of a rebuild, up to the one that writes the feed. -/
inductive Steps (user : UserId) : List Made → Prop
  | rebuilt (friends : List UserId) (posts : List Post) (reply : Except CacheError Unit) :
      Steps user [⟨.friendsOf user, some (.ok friends)⟩, ⟨.query user friends wm.window, some (.ok posts)⟩,
        ⟨.rebuild user (posts.map .snapshot) wm.capacity, some reply⟩]
  | queried (friends : List UserId) (reply : Except StoreError (List Post)) :
      Steps user [⟨.friendsOf user, some (.ok friends)⟩, ⟨.query user friends wm.window, some reply⟩]
  | asked (reply : Except StoreError (List UserId)) : Steps user [⟨.friendsOf user, some reply⟩]
  | begun : Steps user []

theorem goes_warmUser {user : UserId} {calls : List Made} {t : Task (Except WarmError Unit)}
    (goes : (wm.warmUser user).Goes calls t) :
    wm.Steps user calls ∧ (t = .done (.ok ()) → ∃ friends posts, calls =
      [⟨.friendsOf user, some (.ok friends)⟩, ⟨.query user friends wm.window, some (.ok posts)⟩,
        ⟨.rebuild user (posts.map .snapshot) wm.capacity, some (.ok ())⟩]) := by
  rw [warmUser_eq] at goes
  change Task.Goes (.ask _ _) calls t at goes
  obtain _ | _ | @⟨_, _, friends, _, calls, goes⟩ := goes
  · exact ⟨.begun, nofun⟩
  cases friends with
  | error e =>
    cases goes
    exact ⟨.asked _, nofun⟩
  | ok friends =>
    change Task.Goes (.ask _ _) calls t at goes
    obtain _ | _ | @⟨_, _, posts, _, calls, goes⟩ := goes
    · exact ⟨.asked _, nofun⟩
    cases posts with
    | error e =>
      cases goes
      exact ⟨.queried _ _, nofun⟩
    | ok posts =>
      change Task.Goes (.ask _ _) calls t at goes
      obtain _ | _ | @⟨_, _, reply, _, calls, goes⟩ := goes
      · exact ⟨.queried _ _, nofun⟩
      cases reply with
      | error e =>
        cases goes
        exact ⟨.rebuilt .., nofun⟩
      | ok done =>
        cases goes
        exact ⟨.rebuilt .., fun _ => ⟨friends, posts, rfl⟩⟩

/-- The entries of a feed rebuilt now. -/
def fresh (w : World) (user : UserId) : List FeedEntry :=
  ((w.log.query (w.graph.friendsOf user) wm.window).map .snapshot).take wm.capacity

/-- The calls that rebuilds are made of. -/
def Makes : Call → Prop
  | .friendsOf _ | .query .. | .rebuild .. => True
  | _ => False

theorem Steps.makes {user : UserId} {calls : List Made} (steps : wm.Steps user calls) :
    ∀ made ∈ calls, Makes made.call := by
  cases steps <;> simp [Makes]

/-! ### Rebuilds beside each other -/

/-- Rebuilds change nothing but the cache. -/
theorem keeps_rest {calls : List Made} {w w' : World} (plays : World.Plays World.Suffers w calls w')
    (rebuilds : ∀ made ∈ calls, Makes made.call) : ∃ cache, w' = { w with cache } := by
  refine plays.keeps (fun w' => ∃ cache, w' = { w with cache }) ⟨w.cache, rfl⟩ ?_
  rintro ⟨call, reply⟩ member w₁ w₂ ⟨cache, rfl⟩ met
  have makes := rebuilds _ member
  obtain rfl | rfl := met.world
  · exact ⟨cache, rfl⟩
  · cases call with
    | friendsOf => exact ⟨cache, rfl⟩
    | query => exact ⟨cache, rfl⟩
    | rebuild => exact ⟨_, rfl⟩
    | _ => cases makes

variable {wm} {users : List UserId} {w : World} {trace : List (Nat × Made)} {c : Crowd (Except WarmError Unit)}

theorem own_steps {manner : Manner} (runs : Crowd.Runs manner ⟨users.map wm.warmUser, w⟩ trace c) {i : Nat}
    {made : Made} (member : (i, made) ∈ trace) : ∃ user ∈ users, wm.Steps user (own i trace) := by
  obtain ⟨t, begun⟩ := runs.caller member
  obtain ⟨user, listed, rfl⟩ : ∃ user, users[i]? = some user ∧ wm.warmUser user = t := by simpa using begun
  obtain ⟨rest, -, goes⟩ := runs.goes begun
  exact ⟨user, List.mem_of_getElem? listed, (wm.goes_warmUser goes).1⟩

theorem makes_trace {manner : Manner} (runs : Crowd.Runs manner ⟨users.map wm.warmUser, w⟩ trace c) :
    ∀ made ∈ trace.map (·.2), Makes made.call := by
  rintro _ member
  obtain ⟨⟨i, made⟩, inside, rfl⟩ := List.mem_map.mp member
  obtain ⟨user, -, steps⟩ := own_steps runs inside
  exact steps.makes wm made (mem_own.mpr inside)

/-- What succeeded among the rebuilds was performed in a world that differs in its cache at most. -/
theorem answered (runs : Crowd.Runs World.Suffers ⟨users.map wm.warmUser, w⟩ trace c) {call : Call} {reply : call.Reply}
    (member : ⟨call, some reply⟩ ∈ trace.map (·.2)) (succeeded : Simulation.succeeded call reply = true) :
    ∃ cache, reply = (World.perform { w with cache } call).reply := by
  obtain ⟨before, after, w₁, w₂, split, earlier, met, -⟩ := runs.plays.at member
  obtain ⟨cache, rfl⟩ := keeps_rest earlier fun made inside =>
    makes_trace runs made (split ▸ List.mem_append_left _ inside)
  exact ⟨cache, (met.of_succeeded succeeded).1⟩

/-- A rebuild writes what the feed is to be now. -/
theorem rebuilt_fresh (runs : Crowd.Runs World.Suffers ⟨users.map wm.warmUser, w⟩ trace c) {user : UserId}
    {entries : List FeedEntry} {cap : Nat} {reply : Option (Except CacheError Unit)}
    (member : ⟨.rebuild user entries cap, reply⟩ ∈ trace.map (·.2)) : entries.take cap = wm.fresh w user := by
  obtain ⟨⟨i, _⟩, inside, rfl⟩ := List.mem_map.mp member
  have mine := mem_own.mpr inside
  have shared : ∀ made ∈ own i trace, made ∈ trace.map (·.2) := fun made inside =>
    List.mem_map.mpr ⟨(i, made), mem_own.mp inside, rfl⟩
  obtain ⟨other, -, steps⟩ := own_steps runs inside
  generalize own i trace = calls at *
  cases steps with
  | rebuilt friends posts reply =>
    obtain ⟨_, known⟩ := answered runs (shared ⟨.friendsOf other, some (.ok friends)⟩ (by simp)) rfl
    obtain ⟨_, found⟩ := answered runs (shared ⟨.query other friends wm.window, some (.ok posts)⟩ (by simp)) rfl
    cases known
    cases found
    simp at mine
    obtain ⟨⟨rfl, rfl, rfl⟩, -⟩ := mine
    rfl
  | queried => simp at mine
  | asked => simp at mine
  | begun => simp at mine

/-- A feed changes, if at all, into what it is to be now. -/
theorem feed_rebuilt (runs : Crowd.Runs World.Suffers ⟨users.map wm.warmUser, w⟩ trace c) {calls : List Made}
    (among : ∀ made ∈ calls, made ∈ trace.map (·.2)) {w₁ w₂ : World} (plays : World.Plays World.Suffers w₁ calls w₂)
    (user : UserId) :
    w₂.cache.feed? user = some (wm.fresh w user) ∨ w₂.cache.feed? user = w₁.cache.feed? user := by
  refine plays.keeps
    (fun w' => w'.cache.feed? user = some (wm.fresh w user) ∨ w'.cache.feed? user = w₁.cache.feed? user) (.inr rfl) ?_
  rintro ⟨call, reply⟩ member w₃ w₄ held met
  have inside := among _ member
  obtain rfl | rfl := met.world
  · exact held
  cases call with
  | friendsOf => exact held
  | query => exact held
  | rebuild other entries cap =>
    by_cases same : user = other
    · subst same
      left
      simpa [World.perform, FeedCache.rebuild] using rebuilt_fresh runs inside
    · simpa [World.perform, FeedCache.rebuild, same] using held
  | _ => cases makes_trace runs _ inside

/-- A feed whose rebuild succeeded is what it is to be. -/
theorem feed_warmed (runs : Crowd.Runs World.Suffers ⟨users.map wm.warmUser, w⟩ trace c) {i : Nat} {user : UserId}
    (listed : users[i]? = some user) (warmed : c.tasks[i]? = some (.done (.ok ()))) :
    c.world.cache.feed? user = some (wm.fresh w user) := by
  obtain ⟨rest, held, goes⟩ := runs.goes (i := i) (t := wm.warmUser user) (by simp [listed])
  obtain rfl : .done (.ok ()) = rest := by simpa [warmed] using held
  obtain ⟨friends, posts, mine⟩ := (wm.goes_warmUser goes).2 rfl
  have member : ⟨.rebuild user (posts.map .snapshot) wm.capacity, some (.ok ())⟩ ∈ trace.map (·.2) :=
    List.mem_map.mpr ⟨(i, _), mem_own.mp (mine ▸ by simp), rfl⟩
  obtain ⟨before, after, w₁, w₂, split, -, met, later⟩ := runs.plays.at member
  obtain ⟨-, rfl⟩ := met.of_succeeded rfl
  have now : (w₁.perform (.rebuild user (posts.map .snapshot) wm.capacity)).world.cache.feed? user =
      some (wm.fresh w user) := by
    simpa [World.perform, FeedCache.rebuild] using rebuilt_fresh runs member
  have among : ∀ made ∈ after, made ∈ trace.map (·.2) := fun made inside => by
    rw [split]; exact List.mem_append_right _ (List.mem_cons_of_mem _ inside)
  rcases feed_rebuilt runs among later user with rebuilt | kept
  · exact rebuilt
  · exact kept.trans now

/-- A feed is what it is to be if all that was heard of the rebuilds is that they succeeded. -/
theorem feed_heard {w' : World} {results : List (Except WarmError Unit)} {warmed : List Warmed}
    (runs : Crowd.Runs World.Suffers ⟨users.map wm.warmUser, w⟩ trace ⟨results.map .done, w'⟩)
    (heard : warmed.Perm (List.zipWith .mk users results)) (clean : ∀ one ∈ warmed, one.result = .ok ())
    {user : UserId} (listed : user ∈ users) : w'.cache.feed? user = some (wm.fresh w user) := by
  obtain ⟨i, inside, rfl⟩ := List.getElem_of_mem listed
  have there : i < results.length := by
    have many : results.length = users.length := by simpa using runs.length_tasks
    omega
  have told : ⟨users[i], results[i]⟩ ∈ warmed :=
    heard.mem_iff.mpr (List.mem_iff_getElem.mpr ⟨i, by simp; omega, List.getElem_zipWith⟩)
  have ok : results[i] = .ok () := clean _ told
  exact feed_warmed runs (i := i) (by simp [inside]) (by simp [there, ok])

/-! ### All users -/

theorem ends_summarize {manner : Manner} {warmed : List Warmed} {w w' : World} {report : WarmReport}
    (ends : (summarize warmed).Ends manner w report w') :
    w' = w ∧ (report.failures = [] → ∀ one ∈ warmed, one.result = .ok ()) := by
  induction warmed generalizing w w' report with
  | nil => cases ends; exact ⟨rfl, nofun⟩
  | cons one rest ih =>
    obtain ⟨user, _ | ⟨⟩⟩ := one
    · change Task.Ends manner (.tell _ ((summarize rest).bind _)) w report w' at ends
      obtain _ | ⟨ends⟩ := ends
      obtain ⟨later, w₁, first, second⟩ := ends.of_bind
      cases second
      exact ⟨(ih first).1, nofun⟩
    · obtain ⟨later, w₁, first, second⟩ := Task.Ends.of_bind ends
      cases second
      obtain ⟨rfl, clean⟩ := ih first
      exact ⟨rfl, fun none => List.forall_mem_cons.mpr ⟨rfl, clean none⟩⟩

end Warmer

/-- A plan carried out to its end. Its rebuilds go on beside each other, and end in any order. -/
inductive Plan.Ends {α : Type} (manner : Manner) (wm : Warmer) (plan : Plan α) (w : World) : α → World → Prop
  | answer {value : α} {w' : World} (ends : Task.Ends manner plan w (.answer value) w') : Ends manner wm plan w value w'
  | warmEach {users : List UserId} {finish : List Warmed → Task α} {w₁ w₂ w' : World} {trace : List (Nat × Made)}
      {results : List (Except WarmError Unit)} {warmed : List Warmed} {value : α}
      (first : Task.Ends manner plan w (.warmEach users finish) w₁)
      (runs : Crowd.Runs manner ⟨users.map wm.warmUser, w₁⟩ trace ⟨results.map .done, w₂⟩)
      (heard : warmed.Perm (List.zipWith .mk users results))
      (last : Task.Ends manner (finish warmed) w₂ value w') : Ends manner wm plan w value w'

theorem Plan.Ends.mono {α : Type} {few many : Manner} {wm : Warmer} {plan : Plan α} {w w' : World} {value : α}
    (wider : ∀ {w made w'}, few w made w' → many w made w') (ends : Plan.Ends few wm plan w value w') :
    Plan.Ends many wm plan w value w' := by
  cases ends with
  | answer ends => exact .answer (ends.mono wider)
  | warmEach first runs heard last => exact .warmEach (first.mono wider) (runs.mono wider) heard (last.mono wider)

namespace Warmer
variable {wm : Warmer}

theorem ends_finish {manner : Manner} {warmed : List Warmed} {w w' : World} {answer : Except WarmError WarmReport}
    (ends : (finish warmed).Ends manner w answer w') :
    w' = w ∧ ∀ report, answer = .ok report → report.isClean → ∀ one ∈ warmed, one.result = .ok () := by
  obtain ⟨report, w₁, first, second⟩ := Task.Ends.of_bind ends
  obtain _ | ⟨⟨⟩⟩ := second
  obtain ⟨rfl, clean⟩ := ends_summarize first
  refine ⟨rfl, ?_⟩
  rintro _ ⟨⟩ none
  exact clean (List.isEmpty_iff.mp none)

/-- A run over all users changes nothing but feeds, and those only into what they are to be now. After a clean report
every known user's feed is what it is to be. -/
theorem ends_warmAll {w w' : World} {answer : Except WarmError WarmReport}
    (ends : Plan.Ends World.Suffers wm wm.warmAll w answer w') :
    (∃ cache, w' = { w with cache }) ∧
      (∀ user, w'.cache.feed? user = some (wm.fresh w user) ∨ w'.cache.feed? user = w.cache.feed? user) ∧
      ∀ report, answer = .ok report → report.isClean →
        ∀ user ∈ w.graph.users, w'.cache.feed? user = some (wm.fresh w user) := by
  cases ends with
  | answer ends =>
    obtain _ | ⟨_ | _ | @⟨_, _, reply, _, _, _, _, met, later⟩⟩ := ends
    cases reply with
    | error e =>
      cases later
      obtain rfl | rfl := met.world
      · exact ⟨⟨_, rfl⟩, fun _ => .inr rfl, nofun⟩
      · exact ⟨⟨_, rfl⟩, fun _ => .inr rfl, nofun⟩
    | ok users => cases later
  | @warmEach users finish w₁ w₂ _ trace results warmed value first runs heard last =>
    obtain _ | ⟨_ | _ | @⟨_, _, reply, _, _, _, _, met, later⟩⟩ := first
    cases reply with
    | error e => cases later
    | ok users =>
      cases later
      obtain ⟨known, rfl⟩ := met.of_succeeded rfl
      cases known
      obtain ⟨rfl, clean⟩ := ends_finish last
      refine ⟨keeps_rest runs.plays (makes_trace runs), feed_rebuilt runs (fun _ => id) runs.plays, ?_⟩
      intro report same none user listed
      exact feed_heard runs heard (clean report same none) listed

/-! ### Rebuilds in turn -/

variable (wm)

/-- The world after rebuilds one after the other. -/
def warmed (users : List UserId) (w : World) : World := users.foldl (fun w user => ((wm.warmUser user).run w).2) w

theorem runs_in_turn {start : Crowd (Except WarmError Unit)} (before users : List UserId) {w : World}
    {trace : List (Nat × Made)}
    (runs : Crowd.Runs World.Serves start trace
      ⟨before.map (fun _ => .done (.ok ())) ++ users.map wm.warmUser, w⟩) :
    ∃ trace, Crowd.Runs World.Serves start trace
      ⟨(before ++ users).map fun _ => .done (.ok ()), wm.warmed users w⟩ := by
  induction users generalizing before w trace with
  | nil => exact ⟨trace, by simpa [warmed] using runs⟩
  | cons user users ih =>
    obtain ⟨calls, ran⟩ := runs.alone (i := before.length) (t := wm.warmUser user) (by simp)
    rw [List.set_append_right _ _ (by simp)] at ran
    obtain ⟨trace, ended⟩ := ih (before ++ [user]) (by simpa [run_warmUser] using ran)
    exact ⟨trace, by simpa [warmed, run_warmUser] using ended⟩

theorem run_summarize (users : List UserId) (w : World) :
    (summarize (users.map fun user => ⟨user, .ok ()⟩)).run w = (⟨users.length, []⟩, w) := by
  induction users with
  | nil => rfl
  | cons user users ih =>
    change ((summarize _).bind _).run w = _
    rw [Task.run_bind, ih]
    rfl

theorem run_finish (users : List UserId) (w : World) :
    (finish (users.map fun user => ⟨user, .ok ()⟩)).run w = (.ok ⟨users.length, []⟩, w) := by
  change ((summarize _).bind _).run w = _
  rw [Task.run_bind, run_summarize]
  rfl

/-- Rebuilds one after the other are one way for a plan to go on. -/
theorem warmEach_in_turn {α : Type} {plan : Plan α} {users : List UserId} {finish : List Warmed → Task α} {w w₁ : World}
    (first : plan.run w = (.warmEach users finish, w₁)) :
    Plan.Ends World.Serves wm plan w ((finish (users.map fun user => ⟨user, .ok ()⟩)).run (wm.warmed users w₁)).1
      ((finish (users.map fun user => ⟨user, .ok ()⟩)).run (wm.warmed users w₁)).2 := by
  obtain ⟨trace, runs⟩ := wm.runs_in_turn [] users (w := w₁) .start
  have together : Crowd.Runs World.Serves ⟨users.map wm.warmUser, w₁⟩ trace
      ⟨(users.map fun _ => .ok ()).map .done, wm.warmed users w₁⟩ := by
    simpa [Function.comp_def] using runs
  refine .warmEach (Task.ends_serves_iff.mpr first) together ?_ (Task.ends_run ..)
  rw [List.zipWith_map_right, List.zipWith_self]

/-- Without faults a run over all users can end, and reports no failure. -/
theorem warmAll_ends (w : World) :
    Plan.Ends World.Serves wm wm.warmAll w (.ok ⟨w.graph.users.length, []⟩) (wm.warmed w.graph.users w) := by
  have first : Task.run wm.warmAll w = (.warmEach w.graph.users finish, w) := rfl
  have ends := wm.warmEach_in_turn first
  rwa [run_finish] at ends

end Warmer
end FeedFanout
