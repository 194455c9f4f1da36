import FeedFanout.Proofs.Traces
import Mathlib.Data.List.Basic

/-!
Delivery. The calls of a post's creation come in order: it is stored, friends are asked for, and the snapshot is pushed
to one friend after the other (`Service.goes_createPost`). A creation that succeeds has pushed to all of them.
-/
namespace FeedFanout

/-- The users whose feeds are pushed to, in order. -/
def pushedUsers (calls : List Made) : List UserId :=
  calls.filterMap fun made =>
    match made.call with
    | .push user _ _ => some user
    | _ => none

theorem pushedUsers_append (first second : List Made) :
    pushedUsers (first ++ second) = pushedUsers first ++ pushedUsers second :=
  List.filterMap_append

namespace Service
variable (s : Service)

/-- The calls of a fanout to some friends, so far. -/
structure Pushes (post : Post) (friends : List UserId) (calls : List Made) : Prop where
  each : ∀ made ∈ calls,
    (∃ user, made.call = .push user (.snapshot post) s.capacity) ∨ ∃ user, made.call = .publish user post
  inOrder : pushedUsers calls <+: friends

variable {s} {post : Post} {friend : UserId} {friends : List UserId} {calls : List Made}

theorem Pushes.none : s.Pushes post friends [] := ⟨nofun, List.nil_prefix⟩

theorem Pushes.more {first second : List Made} (one : s.Pushes post [friend] first)
    (whole : pushedUsers first = [friend]) (others : s.Pushes post friends second) :
    s.Pushes post (friend :: friends) (first ++ second) := by
  refine ⟨?_, ?_⟩
  · intro made member
    rcases List.mem_append.mp member with early | late
    · exact one.each made early
    · exact others.each made late
  · rw [pushedUsers_append, whole]
    exact List.prefix_cons_inj friend |>.mpr others.inOrder

theorem Pushes.first (one : s.Pushes post [friend] calls) : s.Pushes post (friend :: friends) calls :=
  ⟨one.each, one.inOrder.trans (List.prefix_append [friend] friends)⟩

theorem goes_deliver {t : Task (Option Fanout.Failure)} (goes : (s.deliver post (.snapshot post) friend).Goes calls t) :
    s.Pushes post [friend] calls ∧ ∀ failed, t = .done failed → pushedUsers calls = [friend] := by
  change Task.Goes (.askWithin _ _ _) calls t at goes
  obtain _ | _ | _ | @⟨_, _, _, reply, _, calls, goes⟩ := goes
  · exact ⟨.none, nofun⟩
  have pushed : s.Pushes post [friend] [⟨.push friend (.snapshot post) s.capacity, reply⟩] :=
    ⟨fun made member => .inl ⟨friend, by rw [List.mem_singleton.mp member]⟩, List.prefix_rfl⟩
  obtain _ | e | done := reply
  · cases goes; exact ⟨pushed, fun _ _ => rfl⟩
  · cases goes; exact ⟨pushed, fun _ _ => rfl⟩
  change Task.Goes (.askWithin _ _ _) calls t at goes
  obtain _ | _ | _ | @⟨_, _, _, reply, _, calls, goes⟩ := goes
  · exact ⟨pushed, nofun⟩
  obtain rfl : calls = [] := by
    obtain _ | e | done := reply <;> cases goes <;> rfl
  refine ⟨⟨?_, List.prefix_rfl⟩, fun _ _ => rfl⟩
  intro made member
  rcases List.mem_pair.mp member with rfl | rfl
  · exact .inl ⟨friend, rfl⟩
  · exact .inr ⟨friend, rfl⟩

/-- What follows when a friend was missed: the others are left out, or reached all the same. -/
def passOver (s : Service) (post : Post) (entry : FeedEntry) (failure : Fanout.Failure) (friends : List UserId) :
    Task Reach :=
  match s.policy with
  | .failFast => .done ⟨[], [failure], friends⟩
  | .bestEffort => (s.reach post entry friends).bind fun later =>
    .done { later with failures := failure :: later.failures }

theorem goes_reach {t : Task Reach} (goes : (s.reach post (.snapshot post) friends).Goes calls t) :
    s.Pushes post friends calls ∧ ∀ reach, t = .done reach → reach.failures = [] → pushedUsers calls = friends := by
  induction friends generalizing calls t with
  | nil =>
    cases goes
    exact ⟨.none, fun _ _ _ => rfl⟩
  | cons friend friends ih =>
    obtain ⟨⟨rest, inside⟩, unfinished⟩ | ⟨failed, first, second, rfl, inside, after⟩ :=
      Task.Goes.of_bind (t := s.deliver post (.snapshot post) friend) goes
    · exact ⟨(goes_deliver inside).1.first, fun reach done => absurd done (unfinished reach)⟩
    obtain ⟨one, whole⟩ := goes_deliver inside
    specialize whole failed rfl
    have stopped : s.Pushes post (friend :: friends) (first ++ []) := one.more whole .none
    cases failed with
    | none =>
      change Task.Goes (.tell _ ((s.reach post (.snapshot post) friends).bind fun later =>
        .done { later with delivered := friend :: later.delivered })) second t at after
      obtain _ | ⟨after⟩ := after
      · exact ⟨stopped, nofun⟩
      obtain ⟨rest, inside, wrapped⟩ := after.of_map
      obtain ⟨others, all⟩ := ih inside
      refine ⟨one.more whole others, ?_⟩
      intro reach done fine
      obtain ⟨later, rfl, rfl⟩ := wrapped reach done
      rw [pushedUsers_append, whole, all later rfl fine, List.singleton_append]
    | some failure =>
      -- The rest may be left out or reached as well. There is a failure to report in any case.
      obtain _ | ⟨_ | ⟨after⟩⟩ := after
      · exact ⟨stopped, nofun⟩
      · exact ⟨stopped, nofun⟩
      change Task.Goes (s.passOver post (.snapshot post) failure friends) second t at after
      unfold passOver at after
      generalize s.policy = policy at after
      cases policy with
      | failFast =>
        cases after
        exact ⟨stopped, nofun⟩
      | bestEffort =>
        obtain ⟨rest, inside, wrapped⟩ := after.of_map
        refine ⟨one.more whole (ih inside).1, ?_⟩
        intro reach done fine
        obtain ⟨later, -, rfl⟩ := wrapped reach done
        cases fine

theorem goes_fanout {t : Task (Except FeedError Fanout.Outcome)} (goes : (s.fanout post friends).Goes calls t) :
    s.Pushes post (targets post friends) calls ∧
      ∀ delivered, t = .done (.ok (.success delivered)) → pushedUsers calls = targets post friends := by
  rw [fanout_eq] at goes
  obtain ⟨⟨rest, inside⟩, unfinished⟩ | ⟨reach, first, second, rfl, inside, after⟩ :=
    Task.Goes.of_bind (t := s.reach post (.snapshot post) (targets post friends)) goes
  · exact ⟨(goes_reach inside).1, fun delivered done => absurd done (unfinished _)⟩
  obtain ⟨pushes, all⟩ := goes_reach inside
  obtain _ | ⟨⟨⟩⟩ := after
  · rw [List.append_nil]
    exact ⟨pushes, nofun⟩
  · rw [List.append_nil]
    refine ⟨pushes, fun delivered done => all reach rfl ?_⟩
    by_cases fine : reach.failures = []
    · exact fine
    · simp [Reach.outcome, fine, Task.pure_eq] at done

/-- The calls of a post's creation, so far. -/
inductive Steps (s : Service) (post : Post) : List Made → Prop
  | begun : Steps s post []
  | appended (reply : Option (Except StoreError Unit)) : Steps s post [⟨.append post, reply⟩]
  | asked (reply : Option (Except StoreError (List UserId))) :
      Steps s post [⟨.append post, some (.ok ())⟩, ⟨.friendsOf post.author, reply⟩]
  | reached (friends : List UserId) {calls : List Made} (pushes : s.Pushes post (targets post friends) calls) :
      Steps s post (⟨.append post, some (.ok ())⟩ :: ⟨.friendsOf post.author, some (.ok friends)⟩ :: calls)

theorem goes_spread {t : Task (Except FeedError PostId)} (goes : (s.spread post.author post).Goes calls t) :
    s.Steps post (⟨.append post, some (.ok ())⟩ :: calls) ∧ ∀ id, t = .done (.ok id) → ∃ friends later,
      calls = ⟨.friendsOf post.author, some (.ok friends)⟩ :: later ∧ pushedUsers later = targets post friends := by
  change Task.Goes (.askWithin _ _ _) calls t at goes
  obtain _ | _ | _ | @⟨_, _, _, reply, _, calls, goes⟩ := goes
  · exact ⟨.appended _, nofun⟩
  obtain _ | e | friends := reply
  · cases goes; exact ⟨.asked _, nofun⟩
  · cases goes; exact ⟨.asked _, nofun⟩
  obtain ⟨⟨rest, inside⟩, unfinished⟩ | ⟨outcome, first, second, rfl, inside, after⟩ :=
    Task.Goes.of_bind (t := s.fanout post friends) goes
  · exact ⟨.reached friends (goes_fanout inside).1, fun id done => absurd done (unfinished _)⟩
  obtain ⟨pushes, all⟩ := goes_fanout inside
  have reached : s.Steps post
      (⟨.append post, some (.ok ())⟩ :: ⟨.friendsOf post.author, some (.ok friends)⟩ :: (first ++ [])) := by
    rw [List.append_nil]
    exact .reached friends pushes
  obtain e | delivered | report := outcome
  · cases after
    exact ⟨reached, nofun⟩
  · obtain _ | ⟨⟨⟩⟩ := after
    · exact ⟨reached, nofun⟩
    · exact ⟨reached, fun id done => ⟨friends, _, rfl, by rw [List.append_nil]; exact all delivered rfl⟩⟩
  · obtain _ | ⟨⟨⟩⟩ := after
    · exact ⟨reached, nofun⟩
    · exact ⟨reached, nofun⟩

theorem goes_createPost {author : UserId} {t : Task (Except FeedError PostId)}
    (goes : (s.createPost author post).Goes calls t) :
    s.Steps post calls ∧ ∀ id, t = .done (.ok id) → ∃ friends later,
      calls = ⟨.append post, some (.ok ())⟩ :: ⟨.friendsOf post.author, some (.ok friends)⟩ :: later ∧
        pushedUsers later = targets post friends := by
  unfold createPost at goes
  by_cases other : post.author = author
  · subst other
    rw [if_neg (by simp)] at goes
    change Task.Goes (.askWithin _ _ _) calls t at goes
    obtain _ | _ | _ | @⟨_, _, _, reply, _, calls, goes⟩ := goes
    · exact ⟨.begun, nofun⟩
    obtain _ | e | done := reply
    · cases goes; exact ⟨.appended _, nofun⟩
    · cases goes; exact ⟨.appended _, nofun⟩
    change Task.Goes (.tell _ (s.spread post.author post)) calls t at goes
    obtain _ | ⟨goes⟩ := goes
    · exact ⟨.appended _, nofun⟩
    obtain ⟨steps, all⟩ := goes_spread goes
    refine ⟨steps, ?_⟩
    intro id done
    obtain ⟨friends, later, rfl, whole⟩ := all id done
    exact ⟨friends, later, rfl, whole⟩
  · rw [if_pos other] at goes
    cases goes
    exact ⟨.begun, nofun⟩

/-! ### What the calls are -/

theorem Pushes.user (pushes : s.Pushes post friends calls) {made : Made} (member : made ∈ calls) {user : UserId}
    {entry : FeedEntry} (pushed : made.pushed? user = some entry) : entry = .snapshot post ∧ user ∈ friends := by
  obtain ⟨call, reply⟩ := made
  obtain ⟨other, rfl⟩ | ⟨other, rfl⟩ := pushes.each _ member
  · obtain ⟨rfl, rfl⟩ : other = user ∧ FeedEntry.snapshot post = entry := by simpa [Made.pushed?] using pushed
    exact ⟨rfl, pushes.inOrder.subset (List.mem_filterMap.mpr ⟨_, member, rfl⟩)⟩
  · cases pushed

theorem Pushes.once (pushes : s.Pushes post friends calls) (distinct : friends.Nodup) (user : UserId) :
    calls.countP (fun made => (made.pushed? user).isSome) ≤ 1 := by
  have counted : calls.countP (fun made => (made.pushed? user).isSome) = (pushedUsers calls).count user := by
    rw [pushedUsers, List.count_filterMap]
    refine List.countP_congr ?_
    intro made _
    obtain ⟨call, reply⟩ := made
    cases call with
    | push other => by_cases mine : other = user <;> simp [Made.pushed?, mine]
    | _ => simp [Made.pushed?]
  rw [counted]
  exact Nat.le_trans (pushes.inOrder.count_le user) (List.nodup_iff_count.mp distinct user)

theorem Steps.once (steps : s.Steps post calls)
    (distinct : ∀ friends, ⟨.friendsOf post.author, some (.ok friends)⟩ ∈ calls → friends.Nodup) (user : UserId) :
    calls.countP (fun made => (made.pushed? user).isSome) ≤ 1 := by
  cases steps with
  | reached friends pushes =>
    have nodup : (targets post friends).Nodup := (distinct friends (by simp)).filter _
    simpa [Made.pushed?] using pushes.once nodup user
  | _ => simp [Made.pushed?]

theorem Steps.among (steps : s.Steps post calls) {made : Made} (member : made ∈ calls) :
    made.call = .append post ∨ made.call = .friendsOf post.author ∨
      (∃ user, made.call = .push user (.snapshot post) s.capacity) ∨ ∃ user, made.call = .publish user post := by
  cases steps with
  | begun => cases member
  | appended reply => exact .inl (by rw [List.mem_singleton.mp member])
  | asked reply =>
    rcases List.mem_pair.mp member with rfl | rfl
    · exact .inl rfl
    · exact .inr (.inl rfl)
  | reached friends pushes =>
    rcases List.mem_cons.mp member with rfl | member
    · exact .inl rfl
    rcases List.mem_cons.mp member with rfl | member
    · exact .inr (.inl rfl)
    · exact .inr (.inr (pushes.each made member))

theorem Steps.plain (steps : s.Steps post calls) : ∀ made ∈ calls, made.call.Plain s.capacity := by
  intro made member
  obtain same | same | ⟨user, same⟩ | ⟨user, same⟩ := steps.among member
  all_goals rw [same]; simp [Call.Plain]

theorem Steps.never (steps : s.Steps post calls) (user : UserId) : ∀ made ∈ calls, ¬made.Rebuilds user := by
  rintro made member ⟨entries, cap, rebuilds⟩
  obtain same | same | ⟨user, same⟩ | ⟨user, same⟩ := steps.among member
  all_goals rw [same] at rebuilds; cases rebuilds

/-- What is pushed is the snapshot of the post, after it was stored, to friends that were asked for. -/
theorem Steps.pushed (steps : s.Steps post calls) {made : Made} (member : made ∈ calls) {user : UserId}
    {entry : FeedEntry} (pushed : made.pushed? user = some entry) :
    entry = .snapshot post ∧ ⟨.append post, some (.ok ())⟩ ∈ calls ∧ ∃ friends,
      ⟨.friendsOf post.author, some (.ok friends)⟩ ∈ calls ∧ user ∈ targets post friends := by
  cases steps with
  | begun => cases member
  | appended reply =>
    rcases List.mem_singleton.mp member with rfl
    cases pushed
  | asked reply =>
    rcases List.mem_pair.mp member with rfl | rfl
    · cases pushed
    · cases pushed
  | reached friends pushes =>
    rcases List.mem_cons.mp member with rfl | member
    · cases pushed
    rcases List.mem_cons.mp member with rfl | member
    · cases pushed
    obtain ⟨snapshot, target⟩ := pushes.user member pushed
    exact ⟨snapshot, by simp, friends, by simp, target⟩

end Service
end FeedFanout
