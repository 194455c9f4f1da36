import FeedFanout.Proofs.Crews
import FeedFanout.Proofs.Pages
import Mathlib.Algebra.BigOperators.Group.List.Basic
import Mathlib.Data.List.Nodup

/-!
Runs over all users. A rebuild depends on the store, the graph and its user's feed, and changes no other feed
(`Task.facing_agrees`), so that beside others it comes to what it comes to alone (`Crew.Sound`). Whatever the number of
rebuilds at a time and their order, a run comes to a report that accounts for every user (`Warmer.warmAll_accounts`).
-/
namespace FeedFanout

/-! ### Faults that depend on the call alone -/

/-- A call is refused where there is a fault, and served otherwise. -/
def fateOf (fault : Call → Option Simulation.Trouble) (call : Call) : Fate :=
  match fault call with
  | some trouble => .refused trouble
  | none => .served

namespace World
variable {fault : Call → Option Simulation.Trouble} {w w' : World} {user : UserId} {call : Call}

/-- The directory lists these users, and any other call meets its fate. -/
inductive Under (users : List UserId) (fate : Call → Fate) : Manner
  | listed (w : World) : Under users fate w ⟨.users, some (.ok users)⟩ w
  | met {w w' : World} {call : Call} {reply : Option call.Reply} (other : call ≠ .users)
      (meets : w.meet call (fate call) = (reply, w')) : Under users fate w ⟨call, reply⟩ w'

/-- Every call is replied to: it is performed, or it fails and changes nothing. -/
theorem meet_fateOf (fault : Call → Option Simulation.Trouble) (w : World) (call : Call) :
    w.meet call (fateOf fault call) = (some (w.perform call).reply, (w.perform call).world) ∨
      ∃ (trouble : Simulation.Trouble) (reply : call.Reply), trouble.reply? call = some reply ∧
        w.meet call (fateOf fault call) = (some reply, w) := by
  unfold fateOf
  cases fault call with
  | none => exact .inl rfl
  | some trouble =>
    unfold meet
    dsimp only
    cases fits : trouble.reply? call with
    | none => exact .inl rfl
    | some reply => exact .inr ⟨trouble, reply, fits, rfl⟩

theorem replied (fault : Call → Option Simulation.Trouble) (w : World) (call : Call) :
    ∃ reply w', w.meet call (fateOf fault call) = (some reply, w') := by
  obtain same | ⟨trouble, reply, -, same⟩ := w.meet_fateOf fault call
  · exact ⟨_, _, same⟩
  · exact ⟨_, _, same⟩

/-- Whatever a task is about to do, it can do. -/
theorem moves {α : Type} (users : List UserId) (fault : Call → Option Simulation.Trouble) (w : World) (t : Task α) :
    (∃ value, t = .done value) ∨ ∃ t' w', t.Moves (Under users (fateOf fault)) w t' w' := by
  have answered (call : Call) : ∃ reply w', Under users (fateOf fault) w ⟨call, some reply⟩ w' := by
    by_cases directory : call = .users
    · subst directory
      exact ⟨_, _, .listed w⟩
    · obtain ⟨reply, w', meets⟩ := w.replied fault call
      exact ⟨reply, w', .met directory meets⟩
  cases t with
  | done value => exact .inl ⟨value, rfl⟩
  | tell notice next => exact .inr ⟨_, _, .tell ..⟩
  | ask call next =>
    obtain ⟨reply, w', met⟩ := answered call
    exact .inr ⟨_, _, .ask met⟩
  | askWithin limit call next =>
    obtain ⟨reply, w', met⟩ := answered call
    exact .inr ⟨_, _, .askWithin met⟩

end World

/-! ### One rebuild beside others -/

/-- A call that a rebuild of the user's feed may make. -/
def Call.Mends (user : UserId) : Call → Prop
  | .friendsOf _ | .query .. => True
  | .rebuild other _ _ => other = user
  | _ => False

theorem Warmer.makes_of_mends {user : UserId} {call : Call} (mends : call.Mends user) : Makes call := by
  cases call <;> trivial

/-- Two worlds with the same posts and friendships, and the same feed of a user. -/
structure World.Agrees (user : UserId) (w w' : World) : Prop where
  log : w'.log = w.log
  graph : w'.graph = w.graph
  feed : w'.cache.feed? user = w.cache.feed? user

namespace World
variable {w w' : World} {user : UserId} {call : Call}

theorem Agrees.perform (agrees : w.Agrees user w') (mends : call.Mends user) :
    (w'.perform call).reply = (w.perform call).reply ∧ (w.perform call).world.Agrees user (w'.perform call).world := by
  obtain ⟨log, graph, feed⟩ := agrees
  cases call with
  | friendsOf => exact ⟨by simp only [World.perform, graph], log, graph, feed⟩
  | query => exact ⟨by simp only [World.perform, log], log, graph, feed⟩
  | rebuild other entries cap =>
    obtain rfl : other = user := mends
    exact ⟨rfl, log, graph, by simp [World.perform, FeedCache.rebuild]⟩
  | _ => cases mends

theorem Agrees.meet (agrees : w.Agrees user w') (mends : call.Mends user) (fate : Fate) :
    (w'.meet call fate).1 = (w.meet call fate).1 ∧ (w.meet call fate).2.Agrees user (w'.meet call fate).2 := by
  obtain ⟨same, later⟩ := agrees.perform mends
  refine ⟨meet_congr same fate, ?_⟩
  cases fate with
  | served => exact later
  | unanswered => exact agrees
  | refused trouble =>
    unfold World.meet
    dsimp only
    cases trouble.reply? call with
    | none => exact later
    | some reply => exact agrees

/-- A call of a rebuild changes a feed at most, and no other than its user's. -/
theorem meet_mends (mends : call.Mends user) (fate : Fate) (w : World) :
    (∃ cache, (w.meet call fate).2 = { w with cache }) ∧
      ∀ other ≠ user, (w.meet call fate).2.cache.feed? other = w.cache.feed? other := by
  obtain ⟨performed, same, world, -⟩ | ⟨-, kept⟩ := (w.falters_meet call fate).effect
  · obtain rfl := (Made.mk.inj same).1
    rw [world]
    cases call with
    | friendsOf | query => exact ⟨⟨w.cache, rfl⟩, fun _ _ => rfl⟩
    | rebuild mine entries cap =>
      obtain rfl : mine = user := mends
      refine ⟨⟨_, rfl⟩, fun other apart => ?_⟩
      simp [perform, FeedCache.rebuild, apart]
    | _ => cases mends
  · rw [kept]
    exact ⟨⟨w.cache, rfl⟩, fun _ _ => rfl⟩

end World

namespace Task
variable {α : Type} {user : UserId} {fate : Call → Fate} {w w' : World}

/-- A task that makes such calls only, and none of them within a limit. -/
def Patient (allowed : Call → Prop) : Task α → Prop
  | done _ => True
  | tell _ next => next.Patient allowed
  | ask call next => allowed call ∧ ∀ reply, (next reply).Patient allowed
  | askWithin .. => False

theorem Patient.mono {few many : Call → Prop} (wider : ∀ call, few call → many call) {t : Task α}
    (patient : t.Patient few) : t.Patient many := by
  induction t with
  | done value => trivial
  | tell notice next ih => exact ih patient
  | ask call next ih => exact ⟨wider call patient.1, fun reply => ih reply (patient.2 reply)⟩
  | askWithin => cases patient

/-- The number of steps that a task alone has still to go. -/
def toGo (fate : Call → Fate) : Task α → World → Nat
  | done _, _ => 0
  | tell _ next, w => next.toGo fate w + 1
  | ask call next, w =>
    match w.meet call (fate call) with
    | (some reply, w) => (next reply).toGo fate w + 1
    | (none, _) => 1
  | askWithin _ call next, w => (next (w.meet call (fate call)).1).toGo fate (w.meet call (fate call)).2 + 1

/-- A rebuild alone goes the same way in two worlds that agree. -/
theorem facing_agrees {t : Task α} (patient : t.Patient (Call.Mends user)) (agrees : w.Agrees user w') :
    (t.facing fate w').answer = (t.facing fate w).answer ∧
      (t.facing fate w).world.Agrees user (t.facing fate w').world ∧ t.toGo fate w' = t.toGo fate w := by
  induction t generalizing w w' with
  | done value => exact ⟨rfl, agrees, rfl⟩
  | tell notice next ih =>
    obtain ⟨answer, world, steps⟩ := ih patient agrees
    cases notice <;> exact ⟨answer, world, congrArg (· + 1) steps⟩
  | ask call next ih =>
    obtain ⟨mends, later⟩ := patient
    obtain ⟨same, worlds⟩ := agrees.meet mends (fate call)
    rw [facing_ask, facing_ask, toGo, toGo]
    generalize w.meet call (fate call) = here at same worlds ⊢
    generalize w'.meet call (fate call) = there at same worlds ⊢
    obtain ⟨reply, w₁⟩ := here
    obtain ⟨reply', w₁'⟩ := there
    obtain rfl : reply' = reply := same
    cases reply' with
    | none => exact ⟨rfl, worlds, rfl⟩
    | some reply =>
      obtain ⟨answer, world, steps⟩ := ih reply (later reply) worlds
      exact ⟨answer, world, congrArg (· + 1) steps⟩
  | askWithin => cases patient

/-- A step brings a rebuild nearer to what it comes to alone, and leaves other feeds as they are. -/
theorem Moves.facing {users : List UserId} {t t' : Task α} (moves : t.Moves (World.Under users fate) w t' w')
    (patient : t.Patient (Call.Mends user)) :
    t'.Patient (Call.Mends user) ∧ (t'.facing fate w').answer = (t.facing fate w).answer ∧
      (t'.facing fate w').world = (t.facing fate w).world ∧ t.toGo fate w = t'.toGo fate w' + 1 ∧
      (∃ cache, w' = { w with cache }) ∧ ∀ other ≠ user, w'.cache.feed? other = w.cache.feed? other := by
  cases moves with
  | tell notice next => cases notice <;> exact ⟨patient, rfl, rfl, rfl, ⟨w.cache, rfl⟩, fun _ _ => rfl⟩
  | @ask call next reply w w' met =>
    obtain ⟨mends, later⟩ := patient
    cases met with
    | listed => cases mends
    | met other meets =>
      have kept := World.meet_mends mends (fate call) w
      rw [meets] at kept
      rw [facing_ask, toGo, meets]
      exact ⟨later reply, rfl, rfl, rfl, kept⟩
  | askWithin met => cases patient

end Task

/-- The error that a rebuild ends with when one of its calls is replied to like this. -/
def Made.stops? : Made → Option WarmError
  | ⟨.friendsOf _, some (.error e)⟩ => some (.friends e)
  | ⟨.query .., some (.error e)⟩ => some (.posts e)
  | ⟨.rebuild .., some (.error e)⟩ => some (.cache e)
  | _ => none

namespace Warmer
variable (wm : Warmer) (fault : Call → Option Simulation.Trouble) (w : World) (user : UserId)

/-- The calls of a rebuild, if none of them fails. -/
def calls : List Call :=
  let friends := w.graph.friendsOf user
  let posts := w.log.query friends wm.window
  [.friendsOf user, .query user friends wm.window, .rebuild user (posts.map .snapshot) wm.capacity]

/-- The error of the first call that fails, if one does. -/
def failure? : Option WarmError :=
  (wm.calls w user).findSome? fun call => Made.stops? ⟨call, (w.meet call (fateOf fault call)).1⟩

/-- What the rebuild comes to. -/
def verdict : Except WarmError Unit :=
  match wm.failure? fault w user with
  | none => .ok ()
  | some e => .error e

/-- What the user's feed is then. -/
def outcome : Option (List FeedEntry) :=
  match wm.failure? fault w user with
  | none => some (wm.fresh w user)
  | some _ => w.cache.feed? user

variable {w user}

/-- A rebuild alone. -/
theorem facing_warmUser (w : World) (user : UserId) :
    ((wm.warmUser user).facing (fateOf fault) w).answer = some (wm.verdict fault w user) ∧
      ((wm.warmUser user).facing (fateOf fault) w).world.cache.feed? user = wm.outcome fault w user := by
  unfold verdict outcome failure? calls fresh
  rw [warmUser_eq, Task.facing_ask]
  obtain asked | ⟨trouble, reply, fits, asked⟩ := w.meet_fateOf fault (.friendsOf user)
  swap
  · cases trouble <;> cases fits
    simp only [asked, List.findSome?_cons]
    exact ⟨rfl, rfl⟩
  simp only [asked, List.findSome?_cons, World.perform, befriended, Made.stops?, Task.facing_ask]
  obtain queried | ⟨trouble, reply, fits, queried⟩ :=
    w.meet_fateOf fault (.query user (w.graph.friendsOf user) wm.window)
  swap
  · cases trouble <;> cases fits
    simp only [queried]
    exact ⟨rfl, rfl⟩
  simp only [queried, World.perform, found, Task.facing_ask]
  generalize (w.log.query (w.graph.friendsOf user) wm.window).map FeedEntry.snapshot = entries
  obtain rebuilt | ⟨trouble, reply, fits, rebuilt⟩ := w.meet_fateOf fault (.rebuild user entries wm.capacity)
  · simp only [rebuilt]
    refine ⟨rfl, ?_⟩
    change (w.cache.rebuild user entries wm.capacity).feed? user = some (entries.take wm.capacity)
    simp [FeedCache.rebuild]
  · cases trouble <;> cases fits
    simp only [rebuilt]
    exact ⟨rfl, rfl⟩

end Warmer

/-! ### Crews -/

/-- A rebuild that has come so far in a world, and alone would come from there to what it comes to. -/
structure Warmer.Due (wm : Warmer) (fault : Call → Option Simulation.Trouble) (begun : World)
    (one : UserId × Task (Except WarmError Unit)) (w : World) : Prop where
  patient : one.2.Patient (Call.Mends one.1)
  answer : (one.2.facing (fateOf fault) w).answer = some (wm.verdict fault begun one.1)
  feed : (one.2.facing (fateOf fault) w).world.cache.feed? one.1 = wm.outcome fault begun one.1

namespace Warmer
variable {wm : Warmer} {fault : Call → Option Simulation.Trouble} {begun w w' : World}
  {one : UserId × Task (Except WarmError Unit)}

theorem patient_warmUser (wm : Warmer) (user : UserId) : (wm.warmUser user).Patient (Call.Mends user) := by
  rw [warmUser_eq]
  refine ⟨trivial, ?_⟩
  rintro (e | friends)
  · trivial
  refine ⟨trivial, ?_⟩
  rintro (e | posts)
  · trivial
  refine ⟨rfl, ?_⟩
  rintro (e | done) <;> trivial

theorem due_warmUser (wm : Warmer) (fault : Call → Option Simulation.Trouble) (w : World) (user : UserId) :
    wm.Due fault w (user, wm.warmUser user) w := by
  obtain ⟨answer, feed⟩ := wm.facing_warmUser fault w user
  exact ⟨wm.patient_warmUser user, answer, feed⟩

/-- What is done for other users does not matter. -/
theorem Due.agrees (due : wm.Due fault begun one w) (agrees : w.Agrees one.1 w') :
    wm.Due fault begun one w' ∧ one.2.toGo (fateOf fault) w' = one.2.toGo (fateOf fault) w := by
  obtain ⟨answer, world, steps⟩ := Task.facing_agrees due.patient agrees
  exact ⟨⟨due.patient, answer.trans due.answer, world.feed.trans due.feed⟩, steps⟩

/-- A rebuild that is over has come to what it comes to. -/
theorem Due.ended {user : UserId} {result : Except WarmError Unit} (due : wm.Due fault begun (user, .done result) w) :
    result = wm.verdict fault begun user ∧ w.cache.feed? user = wm.outcome fault begun user :=
  ⟨Option.some.inj due.answer, due.feed⟩

end Warmer

/-- The rebuilds of a crew come to what each comes to alone, and nothing else has changed. -/
structure Crew.Sound (wm : Warmer) (fault : Call → Option Simulation.Trouble) (users : List UserId) (begun : World)
    (c : Crew) : Prop where
  all : ((c.tasks wm).map (·.1)).Perm users
  due : ∀ one ∈ c.tasks wm, wm.Due fault begun one c.world
  kept : ∀ user ∉ users, c.world.cache.feed? user = begun.cache.feed? user
  rest : ∃ cache, c.world = { begun with cache }

namespace Crew
variable {wm : Warmer} {fault : Call → Option Simulation.Trouble} {users : List UserId} {begun : World} {c c' : Crew}

theorem Sound.start (wm : Warmer) (fault : Call → Option Simulation.Trouble) (users : List UserId) (w : World) :
    Sound wm fault users w ⟨users, [], [], w⟩ where
  all := by simp [tasks, Function.comp_def]
  due one member := by
    obtain ⟨user, -, rfl⟩ : ∃ user ∈ users, (user, wm.warmUser user) = one := by simpa [tasks] using member
    exact wm.due_warmUser fault w user
  kept _ _ := rfl
  rest := ⟨w.cache, rfl⟩

/-- The number of steps that a crew has still to go. -/
def toGo (wm : Warmer) (fault : Call → Option Simulation.Trouble) (c : Crew) : Nat :=
  ((c.tasks wm).map fun one => one.2.toGo (fateOf fault) c.world).sum + c.outstanding

theorem Sound.step (sound : c.Sound wm fault users begun) (distinct : users.Nodup)
    (step : Step (World.Under users (fateOf fault)) wm c c') :
    c'.Sound wm fault users begun ∧ c'.toGo wm fault < c.toGo wm fault := by
  obtain ⟨world, same, fewer⟩ | ⟨user, t, t', rest, before, after, moves, same⟩ := step.tasks
  · refine ⟨⟨(same.map _).trans sound.all, ?_, ?_, ?_⟩, ?_⟩
    · intro one member
      rw [world]
      exact sound.due one (same.mem_iff.mp member)
    · rw [world]
      exact sound.kept
    · rw [world]
      exact sound.rest
    · have sums := (same.map fun one => one.2.toGo (fateOf fault) c.world).sum_eq
      rw [toGo, toGo, world, sums]
      omega
  · have due := sound.due (user, t) (before.mem_iff.mpr List.mem_cons_self)
    obtain ⟨patient, answer, alone, steps, ⟨cache, changed⟩, others⟩ := moves.facing due.patient
    have listed : (user :: rest.map (·.1)).Perm users := (before.map _).symm.trans sound.all
    have fresh : user ∉ rest.map (·.1) := (List.nodup_cons.mp (listed.nodup_iff.mpr distinct)).1
    -- The other rebuilds are of other users.
    have agrees : ∀ one ∈ rest, c.world.Agrees one.1 c'.world := by
      intro one member
      have apart : one.1 ≠ user := by
        rintro rfl
        exact fresh (List.mem_map_of_mem member)
      exact ⟨by rw [changed], by rw [changed], others one.1 apart⟩
    have still (one : UserId × Task (Except WarmError Unit)) (member : one ∈ rest) :=
      (sound.due one (before.mem_iff.mpr (List.mem_cons_of_mem _ member))).agrees (agrees one member)
    refine ⟨⟨((after.map _).trans listed), ?_, ?_, ?_⟩, ?_⟩
    · intro one member
      rcases List.mem_cons.mp (after.mem_iff.mp member) with rfl | member
      · exact ⟨patient, answer.trans due.answer, (congrArg (·.cache.feed? user) alone).trans due.feed⟩
      · exact (still one member).1
    · intro other unlisted
      have apart : other ≠ user := by
        rintro rfl
        exact unlisted (listed.mem_iff.mp List.mem_cons_self)
      exact (others other apart).trans (sound.kept other unlisted)
    · obtain ⟨cache', rest⟩ := sound.rest
      exact ⟨cache, by rw [changed, rest]⟩
    · have here := (before.map fun one => one.2.toGo (fateOf fault) c.world).sum_eq
      have there := (after.map fun one => one.2.toGo (fateOf fault) c'.world).sum_eq
      have others : rest.map (fun one => one.2.toGo (fateOf fault) c'.world) =
          rest.map fun one => one.2.toGo (fateOf fault) c.world :=
        List.map_congr_left fun one member => (still one member).2
      simp only [List.map_cons, List.sum_cons] at here there
      rw [toGo, toGo, here, there, others]
      omega

/-- When all rebuilds have been heard of, each has come to what it comes to. -/
theorem Sound.ended {finished : List Warmed} {w : World} (sound : Sound wm fault users begun ⟨[], [], finished, w⟩) :
    (finished.map (·.user)).Perm users ∧ ∀ one ∈ finished,
      one.result = wm.verdict fault begun one.user ∧ w.cache.feed? one.user = wm.outcome fault begun one.user := by
  have tasks : tasks wm ⟨[], [], finished, w⟩ = finished.map fun one => (one.user, .done one.result) := by simp [tasks]
  refine ⟨?_, ?_⟩
  · simpa [tasks, Function.comp_def] using sound.all
  · intro one member
    exact (sound.due (one.user, .done one.result) (tasks ▸ List.mem_map_of_mem member)).ended

end Crew

/-! ### Reports -/

namespace Warmer
variable {wm : Warmer} {fault : Call → Option Simulation.Trouble} {users : List UserId} {w w₁ w₂ : World}
  {report report₁ report₂ : WarmReport}

theorem reportOf_total (warmed : List Warmed) :
    (reportOf warmed).warmed + (reportOf warmed).failures.length = warmed.length := by
  rw [reportOf, List.length_filterMap_eq_countP,
    List.length_eq_countP_add_countP (fun one : Warmed => (failed? one).isNone)]
  congr 2
  funext one
  cases failed? one <;> rfl

theorem users_reported (warmed : List Warmed) :
    ((reportOf warmed).failures.map (·.user)).Sublist (warmed.map (·.user)) := by
  induction warmed with
  | nil => exact .slnil
  | cons one rest ih =>
    obtain ⟨user, e | done⟩ := one
    · exact ih.cons_cons user
    · exact ih.cons user

theorem failed?_verdict (user : UserId) :
    failed? ⟨user, wm.verdict fault w user⟩ = (wm.failure? fault w user).map fun e => ⟨user, e.message⟩ := by
  unfold verdict
  cases wm.failure? fault w user <;> rfl

/-- A report of a run, and the world after it, account for all users: whose rebuild fails is reported with the text of
its error, and everybody else's feed holds the newest posts of the user's friends. -/
structure Accounts (wm : Warmer) (fault : Call → Option Simulation.Trouble) (users : List UserId) (w : World)
    (report : WarmReport) (after : World) : Prop where
  total : report.warmed + report.failures.length = users.length
  once : (report.failures.map (·.user)).Nodup
  failed (user : UserId) (text : String) :
    ⟨user, text⟩ ∈ report.failures ↔ user ∈ users ∧ ∃ e, wm.failure? fault w user = some e ∧ text = e.message
  renewed : ∀ user ∈ users, wm.failure? fault w user = none →
    after.cache.feed? user = some (((w.log.query (w.graph.friendsOf user) .all).take wm.capacity).map .snapshot)
  kept (user : UserId) : user ∉ users ∨ (wm.failure? fault w user).isSome →
    after.cache.feed? user = w.cache.feed? user
  rest : ∃ cache, after = { w with cache }

theorem fresh_eq_newest (small : wm.capacity ≤ Window.largest) (w : World) (user : UserId) :
    wm.fresh w user = ((w.log.query (w.graph.friendsOf user) .all).take wm.capacity).map .snapshot := by
  have whole : min wm.capacity Window.largest = wm.capacity := Nat.min_eq_left small
  simp [fresh, PostLog.query, select_window, whole, List.take_take]

/-- What a crew has done is reported. -/
theorem accounts_reportOf (distinct : users.Nodup) (small : wm.capacity ≤ Window.largest) {finished : List Warmed}
    {after : World} (sound : Crew.Sound wm fault users w ⟨[], [], finished, after⟩) :
    Accounts wm fault users w (reportOf finished) after := by
  obtain ⟨all, ended⟩ := sound.ended
  have failed : ∀ one ∈ finished,
      failed? one = (wm.failure? fault w one.user).map fun e => ⟨one.user, e.message⟩ := by
    rintro ⟨user, result⟩ member
    obtain rfl : result = wm.verdict fault w user := (ended _ member).1
    exact failed?_verdict user
  have heard : ∀ user ∈ users, after.cache.feed? user = wm.outcome fault w user := by
    intro user listed
    obtain ⟨one, member, rfl⟩ := List.mem_map.mp (all.mem_iff.mpr listed)
    exact (ended one member).2
  refine ⟨?_, (all.nodup_iff.mpr distinct).sublist (users_reported finished), ?_, ?_, ?_, sound.rest⟩
  · rw [reportOf_total, ← all.length_eq, List.length_map]
  · intro user text
    rw [reportOf, List.mem_filterMap]
    constructor
    · rintro ⟨one, member, same⟩
      rw [failed one member, Option.map_eq_some_iff] at same
      obtain ⟨e, failure, ⟨⟩⟩ := same
      exact ⟨all.mem_iff.mp (List.mem_map_of_mem member), e, failure, rfl⟩
    · rintro ⟨listed, e, failure, rfl⟩
      obtain ⟨one, member, rfl⟩ := List.mem_map.mp (all.mem_iff.mpr listed)
      exact ⟨one, member, by rw [failed one member, failure, Option.map_some]⟩
  · intro user listed served
    rw [heard user listed, outcome, served, fresh_eq_newest small]
  · rintro user (unlisted | failure)
    · exact sound.kept user unlisted
    · by_cases listed : user ∈ users
      · obtain ⟨e, failure⟩ := Option.isSome_iff_exists.mp failure
        rw [heard user listed, outcome, failure]
      · exact sound.kept user listed

/-- There is one way to account for all users, up to the order of the failures. -/
theorem Accounts.unique (one : Accounts wm fault users w report₁ w₁) (two : Accounts wm fault users w report₂ w₂) :
    report₁.warmed = report₂.warmed ∧ report₁.failures.Perm report₂.failures ∧
      ∀ user, w₁.cache.feed? user = w₂.cache.feed? user := by
  have failures : report₁.failures.Perm report₂.failures := by
    rw [List.perm_ext_iff_of_nodup (List.Nodup.of_map _ one.once) (List.Nodup.of_map _ two.once)]
    rintro ⟨user, text⟩
    rw [one.failed, two.failed]
  refine ⟨?_, failures, ?_⟩
  · have totals := one.total.trans two.total.symm
    rw [failures.length_eq] at totals
    exact Nat.add_right_cancel totals
  · intro user
    by_cases served : user ∈ users ∧ wm.failure? fault w user = none
    · rw [one.renewed user served.1 served.2, two.renewed user served.1 served.2]
    · have passed : user ∉ users ∨ (wm.failure? fault w user).isSome := by
        rw [Option.isSome_iff_ne_none]
        exact not_and_or.mp served
      rw [one.kept user passed, two.kept user passed]

/-! ### Runs -/

/-- The end of a run whose report accounts for all users. -/
def Accounted (wm : Warmer) (fault : Call → Option Simulation.Trouble) (users : List UserId) (w : World)
    (point : Plan.Point (Except WarmError WarmReport)) : Prop :=
  ∃ report after, point = .last (.done (.ok report)) after ∧ Accounts wm fault users w report after

/-- A crew comes to an end, and its report accounts for all users. By induction on the steps that it has still to go. -/
theorem inevitably_crew (distinct : users.Nodup) (small : wm.capacity ≤ Window.largest) {c : Crew}
    (sound : c.Sound wm fault users w) :
    Inevitably (Plan.Step (World.Under users (fateOf fault)) wm) (wm.Accounted fault users w) (.middle c finish) := by
  have reported {finished : List Warmed} {after : World}
      (sound : Crew.Sound wm fault users w ⟨[], [], finished, after⟩) :
      Inevitably (Plan.Step (World.Under users (fateOf fault)) wm) (wm.Accounted fault users w)
        (.last (finish finished) after) :=
    Plan.inevitably_last (remarks_finish finished) ⟨_, _, rfl, accounts_reportOf distinct small sound⟩
  induction size : c.toGo wm fault using Nat.strong_induction_on generalizing c with
  | _ size ih =>
    subst size
    refine .later ?_ ?_
    · obtain ⟨free, begun⟩ | ⟨next, step⟩ := c.goes_on wm (World.moves users fault c.world)
      · obtain ⟨later, busy, finished, after⟩ := c
        cases free
        cases begun
        exact ⟨_, .finish⟩
      · exact ⟨_, .crew step⟩
    · intro next step
      cases step with
      | crew step =>
        obtain ⟨still, less⟩ := sound.step distinct step
        exact ih _ less still rfl
      | finish => exact reported sound

theorem inevitably_warmAll (distinct : users.Nodup) (small : wm.capacity ≤ Window.largest) (w : World) :
    Inevitably (Plan.Step (World.Under users (fateOf fault)) wm) (wm.Accounted fault users w)
      (.first wm.warmAll w) := by
  refine .later ⟨_, .first (.tell ..)⟩ ?_
  intro next step
  obtain ⟨⟨⟩⟩ := step
  refine .later ⟨_, .first (.ask (.listed w))⟩ ?_
  intro next step
  cases step with
  | first moves =>
    cases moves with
    | ask met =>
      cases met with
      | met other => exact absurd rfl other
      | listed =>
        refine .later ⟨_, .warmEach⟩ ?_
        intro next step
        cases step with
        | first moves => cases moves
        | warmEach => exact inevitably_crew distinct small (.start wm fault users w)

/-- Some run over these users ends like this. -/
def MayEnd (wm : Warmer) (fault : Call → Option Simulation.Trouble) (users : List UserId) (w : World)
    (answer : Except WarmError WarmReport) (after : World) : Prop :=
  Relation.ReflTransGen (Plan.Step (World.Under users (fateOf fault)) wm) (.first wm.warmAll w)
    (.last (.done answer) after)

theorem MayEnd.accounts {answer : Except WarmError WarmReport} {after : World}
    (ends : MayEnd wm fault users w answer after) (distinct : users.Nodup) (small : wm.capacity ≤ Window.largest) :
    ∃ report, answer = .ok report ∧ Accounts wm fault users w report after := by
  have final : ∀ point, wm.Accounted fault users w point →
      ∀ next, ¬Plan.Step (World.Under users (fateOf fault)) wm point next := by
    rintro _ ⟨report, after, rfl, -⟩
    exact Plan.stuck _ _
  obtain ⟨report, _, same, accounts⟩ := (inevitably_warmAll distinct small w).reached final ends (Plan.stuck _ _)
  cases same
  exact ⟨report, rfl, accounts⟩

/-- A run over all users comes to an end, whatever fails, in whatever order the rebuilds go on, and however many there
are at a time, and its report accounts for all users. Two runs that differ in the number of rebuilds at a time or in the
order report the same, up to the order of the failures, and leave the same feeds. -/
theorem warmAll_accounts (wm : Warmer) (fault : Call → Option Simulation.Trouble) (users : List UserId) (w : World)
    (distinct : users.Nodup) (small : wm.capacity ≤ Window.largest) :
    Inevitably (Plan.Step (World.Under users (fateOf fault)) wm) (wm.Accounted fault users w) (.first wm.warmAll w) ∧
      ∀ (concurrency : Nat) (answer₁ answer₂ : Except WarmError WarmReport) (w₁ w₂ : World),
        MayEnd wm fault users w answer₁ w₁ → MayEnd { wm with concurrency } fault users w answer₂ w₂ →
          ∃ report₁ report₂, answer₁ = .ok report₁ ∧ answer₂ = .ok report₂ ∧ report₁.warmed = report₂.warmed ∧
            report₁.failures.Perm report₂.failures ∧ ∀ user, w₁.cache.feed? user = w₂.cache.feed? user := by
  refine ⟨inevitably_warmAll distinct small w, ?_⟩
  intro concurrency answer₁ answer₂ w₁ w₂ ends₁ ends₂
  obtain ⟨report₁, rfl, one⟩ := ends₁.accounts distinct small
  obtain ⟨report₂, rfl, two⟩ := ends₂.accounts distinct small
  -- The number of rebuilds at a time is nowhere in what is accounted for.
  have alike : Accounts wm fault users w report₂ w₂ :=
    ⟨two.total, two.once, two.failed, two.renewed, two.kept, two.rest⟩
  exact ⟨report₁, report₂, rfl, rfl, one.unique alike⟩

/-- The graph refuses one of two users. -/
theorem warmAll_accounts_one_down :
    let fault : Call → Option Simulation.Trouble
      | .friendsOf user => if user = .ofNat 8 then some (.store .timeout) else none
      | _ => none
    let wm : Warmer := ⟨2, 0⟩
    Inevitably (Plan.Step (World.Under [.ofNat 7, .ofNat 8] (fateOf fault)) wm)
      (fun point => ∃ after,
        point = .last (.done (.ok ⟨1, [⟨.ofNat 8, "failed to load friends: database timeout"⟩]⟩)) after ∧
          after.cache.feed? (.ofNat 7) = some [] ∧ after.cache.feed? (.ofNat 8) = none)
      (.first wm.warmAll (.empty 1 .ofNat)) := by
  intro fault wm
  have accounted := (warmAll_accounts wm fault [.ofNat 7, .ofNat 8] (.empty 1 .ofNat) (by decide) (by decide)).1
  have seven : wm.failure? fault (.empty 1 .ofNat) (.ofNat 7) = none := rfl
  have eight : wm.failure? fault (.empty 1 .ofNat) (.ofNat 8) = some (.friends .timeout) := rfl
  refine accounted.mono ?_
  rintro _ ⟨⟨warmed, failures⟩, after, rfl, accounts⟩
  have failed : failures = [⟨.ofNat 8, "failed to load friends: database timeout"⟩] := by
    rw [← List.perm_singleton, List.perm_ext_iff_of_nodup (List.Nodup.of_map _ accounts.once) (List.nodup_singleton _)]
    rintro ⟨user, text⟩
    rw [accounts.failed, List.mem_singleton, WarmFailure.mk.injEq]
    constructor
    · rintro ⟨listed, e, failure, rfl⟩
      simp only [List.mem_cons, List.not_mem_nil, or_false] at listed
      obtain rfl | rfl := listed
      · rw [seven] at failure
        cases failure
      · rw [eight] at failure
        cases failure
        exact ⟨rfl, rfl⟩
    · rintro ⟨rfl, rfl⟩
      exact ⟨by decide, _, eight, rfl⟩
  subst failed
  obtain rfl : warmed = 1 := Nat.add_right_cancel (accounts.total : warmed + 1 = 1 + 1)
  exact ⟨after, rfl, accounts.renewed _ (by decide) seven, accounts.kept _ (.inr (by rw [eight]; rfl))⟩

end Warmer
end FeedFanout
