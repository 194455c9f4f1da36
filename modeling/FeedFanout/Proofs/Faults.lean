import FeedFanout.Proofs.Posting

/-!
Faults without effect. A call may fail, or not be answered in its time, and then leaves the world as it is
(`World.Falters`). What calls make of the store and of a feed depends on those that succeeded alone: the store holds the
posts appended (`World.Plays.posts`), and a feed that was not rebuilt the entries it has accepted (`World.Plays.feed?`).
-/
namespace FeedFanout

namespace Made

/-- The post that a call has stored. -/
def stored? : Made → Option Post
  | ⟨.append post, some (.ok ())⟩ => some post
  | _ => none

/-- The entry that a call pushes into a user's feed. -/
def pushed? (user : UserId) (made : Made) : Option FeedEntry :=
  match made.call with
  | .push other entry _ => if other = user then some entry else none
  | _ => none

/-- The call asks for the posts of a user's friends. -/
def Queries (user : UserId) (made : Made) : Prop := ∃ authors window, made.call = .query user authors window

/-- The call rebuilds a user's feed. -/
def Rebuilds (user : UserId) (made : Made) : Prop := ∃ entries cap, made.call = .rebuild user entries cap

/-- The call was answered in time, and did what it was asked for. -/
def succeeded : Made → Bool
  | ⟨call, some reply⟩ => Simulation.succeeded call reply
  | ⟨_, none⟩ => false

/-- The entry that a call has brought into a user's feed. -/
def accepted? (user : UserId) (made : Made) : Option FeedEntry :=
  if made.succeeded then made.pushed? user else none

theorem accepted?_push (user other : UserId) (entry : FeedEntry) (cap : Nat) :
    accepted? user ⟨.push other entry cap, some (.ok ())⟩ = if other = user then some entry else none := rfl

theorem accepted?_publish (user other : UserId) (post : Post) (reply : Option (Except Live.NotifyError Unit)) :
    accepted? user ⟨.publish other post, reply⟩ = none := ite_self none

theorem accepted?_of_failed {made : Made} (bad : made.succeeded = false) (user : UserId) :
    made.accepted? user = none := by
  rw [accepted?, bad]; rfl

theorem stored?_eq_some {made : Made} {post : Post} :
    made.stored? = some post ↔ made.call = .append post ∧ made.succeeded = true := by
  obtain ⟨call, reply⟩ := made
  cases call with
  | append other =>
    obtain _ | e | done := reply
    · exact ⟨nofun, fun ⟨_, good⟩ => by cases good⟩
    · exact ⟨nofun, fun ⟨_, good⟩ => by cases good⟩
    · exact ⟨fun same => ⟨by cases same; rfl, rfl⟩, fun ⟨same, _⟩ => by cases same; rfl⟩
  | _ => exact ⟨nofun, fun ⟨same, _⟩ => by cases same⟩

end Made

/-- The entries that a user's feed has accepted, newest first. -/
def acceptedIn (user : UserId) (calls : List Made) : List FeedEntry := (calls.filterMap (·.accepted? user)).reverse

/-- The posts that calls have stored, newest first. -/
def appendedIn (calls : List Made) : List Post := (calls.filterMap Made.stored?).reverse

@[simp] theorem acceptedIn_nil (user : UserId) : acceptedIn user [] = [] := rfl

theorem acceptedIn_append (user : UserId) (first second : List Made) :
    acceptedIn user (first ++ second) = acceptedIn user second ++ acceptedIn user first := by
  simp [acceptedIn]

theorem acceptedIn_cons (user : UserId) (made : Made) (calls : List Made) :
    acceptedIn user (made :: calls) = acceptedIn user calls ++ (made.accepted? user).toList := by
  cases accepted : made.accepted? user <;> simp [acceptedIn, accepted]

theorem acceptedIn_perm (user : UserId) {first second : List Made} (perm : first.Perm second) :
    (acceptedIn user first).Perm (acceptedIn user second) :=
  (List.reverse_perm _).trans ((perm.filterMap _).trans (List.reverse_perm _).symm)

theorem appendedIn_append (first second : List Made) :
    appendedIn (first ++ second) = appendedIn second ++ appendedIn first := by
  simp [appendedIn]

theorem appendedIn_perm {first second : List Made} (perm : first.Perm second) :
    (appendedIn first).Perm (appendedIn second) :=
  (List.reverse_perm _).trans ((perm.filterMap _).trans (List.reverse_perm _).symm)

theorem appendedIn_cons (made : Made) (calls : List Made) :
    appendedIn (made :: calls) = appendedIn calls ++ made.stored?.toList := by
  cases stored : made.stored? <;> simp [appendedIn, stored]

/-- The calls of posting and warming where a feed holds so many entries. -/
def Call.Plain (cap : Nat) : Call → Prop
  | .append _ | .friendsOf _ | .query .. | .publish .. => True
  | .push _ _ room | .rebuild _ _ room => room = cap
  | _ => False

/-- The identifiers in use are those of the posts, and no two posts share one. -/
structure PostLog.Exact (log : PostLog) : Prop where
  taken : ∀ id, id ∈ log.taken ↔ ∃ post ∈ log.posts, post.id = id
  distinct : (log.posts.map (·.id)).Nodup

theorem PostLog.Exact.empty : PostLog.empty.Exact := ⟨by simp [PostLog.empty], .nil⟩

namespace World
variable {w : World}

theorem perform_graph (w : World) (call : Call) : (w.perform call).world.graph = w.graph := by
  cases call <;> simp only [perform] <;> split <;> rfl

theorem perform_append (w : World) (post : Post) :
    w.perform (.append post) =
      if post.id ∈ w.log.taken then ⟨.error (.duplicate "posts_pkey"), w, []⟩ else ⟨.ok (), w.stored post, []⟩ := by
  by_cases used : post.id ∈ w.log.taken
  · simp [perform, PostLog.append, used]
  · simp [perform, PostLog.append, used, stored]

theorem exact_stored (exact : w.log.Exact) {post : Post} (fresh : post.id ∉ w.log.taken) :
    (w.stored post).log.Exact := by
  refine ⟨?_, List.nodup_cons.mpr ⟨?_, exact.distinct⟩⟩
  · intro id
    simp [stored, exact.taken, eq_comm]
  · rwa [List.mem_map, ← exact.taken]

theorem perform_log (w : World) {call : Call} (other : ∀ post, call ≠ .append post) :
    (w.perform call).world.log = w.log := by
  cases call with
  | append post => exact absurd rfl (other post)
  | publish => simp only [perform]; split <;> rfl
  | subscribe => simp only [perform]; split <;> rfl
  | _ => rfl

/-! ### Calls that may fail -/

/-- A call is performed, or fails, or is not answered in its time. In the last two cases it has no effect. -/
inductive Falters : Manner
  | performed (w : World) (call : Call) : Falters w ⟨call, some (w.perform call).reply⟩ (w.perform call).world
  | failed {call : Call} {trouble : Simulation.Trouble} {reply : call.Reply} (w : World)
      (fits : trouble.reply? call = some reply) : Falters w ⟨call, some reply⟩ w
  | late (w : World) (call : Call) : Falters w ⟨call, none⟩ w

theorem Serves.falters {w w' : World} {made : Made} (serves : Serves w made w') : Falters w made w' := by
  cases serves; exact .performed ..

/-- A call that does not succeed changes nothing. -/
theorem perform_unsuccessful {w : World} {call : Call} (bad : Simulation.succeeded call (w.perform call).reply = false) :
    (w.perform call).world = w := by
  cases call with
  | append post =>
    rw [perform_append] at bad ⊢
    split at bad
    · rw [if_pos ‹_›]
    · cases bad
  | publish user post =>
    simp only [perform] at bad ⊢
    split at bad
    · rfl
    · cases bad
    · cases bad
    · cases bad
  | subscribe user =>
    simp only [perform] at bad ⊢
    split at bad
    · cases bad
    · rfl
  | query | friendsOf | users | «exists» | read | ping => rfl
  | push | prepend | trim | rebuild | mint => cases bad

namespace Falters
variable {w w' : World} {made : Made}

/-- A call is performed if it succeeds, and changes nothing otherwise. -/
theorem effect (falters : Falters w made w') :
    (∃ call, made = ⟨call, some (w.perform call).reply⟩ ∧ w' = (w.perform call).world ∧ made.succeeded = true) ∨
      made.succeeded = false ∧ w' = w := by
  cases falters with
  | performed _ call =>
    cases good : Simulation.succeeded call (w.perform call).reply with
    | true => exact .inl ⟨call, rfl, rfl, good⟩
    | false => exact .inr ⟨good, perform_unsuccessful good⟩
  | @failed call trouble reply _ fits =>
    refine .inr ⟨?_, rfl⟩
    cases call <;> cases trouble <;> cases fits <;> rfl
  | late => exact .inr ⟨rfl, rfl⟩

theorem graph (falters : Falters w made w') : w'.graph = w.graph := by
  obtain ⟨call, -, rfl, -⟩ | ⟨-, rfl⟩ := falters.effect
  · exact perform_graph ..
  · rfl

/-- A list of friends is the one that the graph holds. -/
theorem friends {user : UserId} {friends : List UserId}
    (falters : Falters w ⟨.friendsOf user, some (.ok friends)⟩ w') : friends = w.graph.friendsOf user := by
  obtain ⟨call, same, -⟩ | ⟨bad, -⟩ := falters.effect
  · cases same; rfl
  · cases bad

theorem unchanged (falters : Falters w made w') (bad : made.succeeded = false) : w' = w := by
  obtain ⟨-, -, -, good⟩ | ⟨-, same⟩ := falters.effect
  · rw [bad] at good
    cases good
  · exact same

/-- Asking for friends changes nothing. -/
theorem asks {user : UserId} {reply : Option (Except StoreError (List UserId))}
    (falters : Falters w ⟨.friendsOf user, reply⟩ w') : w' = w := by
  obtain ⟨call, same, rfl, -⟩ | ⟨-, same⟩ := falters.effect
  · cases same
    rfl
  · exact same

theorem stored?_of_failed (bad : made.succeeded = false) : made.stored? = none := by
  cases stored : made.stored? with
  | none => rfl
  | some post => rw [(Made.stored?_eq_some.mp stored).2] at bad; cases bad

/-- The store gets a post only by an append that succeeds. -/
theorem log (falters : Falters w made w') :
    w'.log = w.log ∧ made.stored? = none ∨
      ∃ post, post.id ∉ w.log.taken ∧ made.stored? = some post ∧ w' = w.stored post := by
  obtain ⟨call, rfl, rfl, good⟩ | ⟨bad, rfl⟩ := falters.effect
  · by_cases append : ∃ post, call = .append post
    · obtain ⟨post, rfl⟩ := append
      simp only [perform_append]
      split
      · exact .inl ⟨rfl, rfl⟩
      · exact .inr ⟨post, ‹_›, rfl, rfl⟩
    · refine .inl ⟨perform_log w fun post same => append ⟨post, same⟩, ?_⟩
      cases stored : Made.stored? ⟨call, some (w.perform call).reply⟩ with
      | none => rfl
      | some post => exact absurd ⟨post, (Made.stored?_eq_some.mp stored).1⟩ append
  · exact .inl ⟨rfl, stored?_of_failed bad⟩

theorem stores {post : Post} (falters : Falters w ⟨.append post, some (.ok ())⟩ w') : w' = w.stored post := by
  obtain ⟨-, none⟩ | ⟨other, -, same, rfl⟩ := falters.log
  · cases none
  · cases same
    rfl

theorem posts (falters : Falters w made w') : w'.log.posts = made.stored?.toList ++ w.log.posts := by
  obtain ⟨same, none⟩ | ⟨post, -, some, rfl⟩ := falters.log
  · rw [same, none]; rfl
  · rw [some]; rfl

theorem exact (falters : Falters w made w') (exact : w.log.Exact) : w'.log.Exact := by
  obtain ⟨same, -⟩ | ⟨post, fresh, -, rfl⟩ := falters.log
  · rwa [same]
  · exact exact_stored exact fresh

/-- A feed that is not rebuilt gets the entries it accepts. -/
theorem feed? (falters : Falters w made w') {cap : Nat} (plain : made.call.Plain cap) {user : UserId}
    (kept : ¬made.Rebuilds user) :
    w'.cache.feed? user =
      match made.accepted? user with
      | some entry => some ((entry :: w.cache.feed user).take cap)
      | none => w.cache.feed? user := by
  obtain ⟨call, rfl, rfl, good⟩ | ⟨bad, rfl⟩ := falters.effect
  · rw [Made.accepted?, if_pos good]
    cases call with
    | append post =>
      rw [perform_append]
      split
      · rfl
      · rfl
    | publish =>
      simp only [perform]
      split
      · rfl
      · rfl
      · rfl
      · rfl
    | push other entry room =>
      obtain rfl : room = cap := plain
      by_cases mine : other = user
      · subst mine; simp [Made.pushed?, perform, FeedCache.feed?_push]
      · simp [Made.pushed?, mine, perform, FeedCache.feed?_push, Ne.symm mine]
    | rebuild other entries room =>
      have apart : user ≠ other := by
        rintro rfl
        exact kept ⟨entries, room, rfl⟩
      simp [Made.pushed?, perform, FeedCache.rebuild, apart]
    | friendsOf => rfl
    | query => rfl
    | _ => cases plain
  · rw [Made.accepted?_of_failed bad]

end Falters

namespace Plays
variable {w w' : World} {calls : List Made}

theorem graph (plays : Plays Falters w calls w') : w'.graph = w.graph :=
  plays.keeps (·.graph = w.graph) rfl fun _ _ _ _ same falters => falters.graph.trans same

theorem exact (plays : Plays Falters w calls w') (exact : w.log.Exact) : w'.log.Exact :=
  plays.keeps (·.log.Exact) exact fun _ _ _ _ before falters => falters.exact before

/-- Calls that store nothing leave the store as it is. -/
theorem log_eq (plays : Plays Falters w calls w') (nothing : ∀ made ∈ calls, made.stored? = none) :
    w'.log = w.log := by
  refine plays.keeps (·.log = w.log) rfl ?_
  intro made member w₁ w₂ same falters
  obtain ⟨kept, -⟩ | ⟨post, -, stored, -⟩ := falters.log
  · exact kept.trans same
  · rw [nothing made member] at stored
    cases stored

theorem posts (plays : Plays Falters w calls w') : w'.log.posts = appendedIn calls ++ w.log.posts := by
  induction calls generalizing w with
  | nil => cases plays; rfl
  | cons made calls ih =>
    obtain _ | ⟨falters, later⟩ := plays
    rw [appendedIn_cons, ih later, falters.posts, List.append_assoc]

/-- A feed that is not rebuilt holds what it has accepted, as far as there is room, and behind it what there was. -/
theorem feed? (plays : Plays Falters w calls w') {cap : Nat} (plain : ∀ made ∈ calls, made.call.Plain cap)
    {user : UserId} (kept : ∀ made ∈ calls, ¬made.Rebuilds user) :
    w'.cache.feed? user =
      if acceptedIn user calls = [] then w.cache.feed? user
      else some ((acceptedIn user calls ++ w.cache.feed user).take cap) := by
  induction calls generalizing w with
  | nil => cases plays; rfl
  | cons made calls ih =>
    obtain _ | ⟨falters, later⟩ := plays
    obtain ⟨plain, plains⟩ := List.forall_mem_cons.mp plain
    obtain ⟨kept, kepts⟩ := List.forall_mem_cons.mp kept
    have now := falters.feed? plain kept
    rw [ih later plains kepts, acceptedIn_cons]
    cases accepted : made.accepted? user with
    | none =>
      rw [accepted] at now
      simp [FeedCache.feed, now]
    | some entry =>
      rw [accepted] at now
      by_cases nothing : acceptedIn user calls = []
      · simp [nothing, now]
      · simp [nothing, FeedCache.feed, now, take_append_take]

end Plays
end World
end FeedFanout
