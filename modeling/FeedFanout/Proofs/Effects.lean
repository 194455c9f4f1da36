import FeedFanout.Proofs.Trials
import FeedFanout.Proofs.Viewers

/-!
What a fanout changes. Its report tells how often each feed has got the post (`Service.Reports.accepted_eq`) and to whose
topics it was sent (`Service.Reports.sends`). A topic to which nothing was sent is as before, and a viewer of any other has
more messages to get (`Live.Notifier.Sends`). So the report tells all that has changed (`Service.fanout_changes`).
-/
namespace FeedFanout

/-! ### Topics -/

namespace Live

/-- A message is sent to some users, one after the other. -/
inductive Notifier.Sends (payload : String) : Notifier → List UserId → Notifier → Prop
  | none (n : Notifier) : Sends payload n [] n
  | one {n next last : Notifier} {user : UserId} {users : List UserId} (running : n.isClosed = false)
      (delivers : n.Delivers user payload next) (later : Sends payload next users last) :
      Sends payload n (user :: users) last

/-- A message was sent to each of these users. -/
def Viewer.hears (users : List UserId) (payload : String) (v : Viewer) : Viewer :=
  users.foldl (fun v user => v.told user payload) v

/-- A viewer has one more message to get for each time that its user is among those it was sent to. -/
theorem Viewer.rest_hears {v : Viewer} (present : v.account.present = true)
    (honest : takenIn v.account.receipts ≤ v.account.due.length) (users : List UserId) (payload : String) :
    (v.hears users payload).account.rest =
      v.account.rest ++ List.replicate (users.count v.account.user) payload := by
  induction users generalizing v with
  | nil => simp [Viewer.hears]
  | cons user users ih =>
    have later := ih (v := v.told user payload) (by rw [present_told, present]) (honest_told honest user payload)
    rw [user_told] at later
    change ((v.told user payload).hears users payload).account.rest = _
    rw [later]
    by_cases mine : user = v.account.user
    · subst mine
      rw [House.Orderly.rest_told honest present, List.append_assoc, List.count_cons_self, List.replicate_succ]
      rfl
    · rw [Viewer.told, if_neg fun both => mine both.2.symm, List.count_cons_of_ne mine]

theorem Viewer.present_hears (users : List UserId) (payload : String) (v : Viewer) :
    (v.hears users payload).account.present = v.account.present := by
  induction users generalizing v with
  | nil => rfl
  | cons user users ih => exact (ih _).trans (v.present_told user payload)

theorem Viewer.stream_hears (users : List UserId) (payload : String) (v : Viewer) :
    (v.hears users payload).stream = v.stream := by
  induction users generalizing v with
  | nil => rfl
  | cons user users ih => exact (ih _).trans (v.stream_told user payload)

namespace Notifier.Sends
variable {payload : String} {n last : Notifier} {users : List UserId} {capacity : Nat}

theorem sound (sends : Sends payload n users last) (sound : n.Sound capacity) : last.Sound capacity := by
  induction sends with
  | none n => exact sound
  | one running delivers later ih => exact ih (sound.deliver delivers)

theorem topic? (sends : Sends payload n users last) (sound : n.Sound capacity) {other : UserId}
    (apart : other ∉ users) : last.topic? other = n.topic? other := by
  induction sends with
  | none n => rfl
  | one running delivers later ih =>
    obtain ⟨here, there⟩ := not_or.mp (mt List.mem_cons.mpr apart)
    exact (ih (sound.deliver delivers) there).trans (delivers.topic? sound here)

theorem orderly (sends : Sends payload n users last) {viewers : List Viewer}
    (orderly : House.Orderly capacity ⟨n, viewers⟩) :
    House.Orderly capacity ⟨last, viewers.map (·.hears users payload)⟩ := by
  induction sends generalizing viewers with
  | none n => simpa only [Viewer.hears, List.foldl_nil, List.map_id'] using orderly
  | one running delivers later ih =>
    have next := ih (orderly.deliver running delivers)
    rwa [List.map_map] at next

/-- A viewer of a user reads on, and has as many more messages to get as were sent to the user. -/
theorem reads (sends : Sends payload n users last) {viewers : List Viewer}
    (orderly : House.Orderly capacity ⟨n, viewers⟩) {v : Viewer} (member : v ∈ viewers)
    (present : v.account.present = true) :
    last.Reads (v.account.rest ++ List.replicate (users.count v.account.user) payload) v.stream := by
  have reads := (sends.orderly orderly).reads (v.hears users payload) (List.mem_map_of_mem member)
    (by rw [Viewer.present_hears, present])
  rwa [Viewer.stream_hears, Viewer.rest_hears present (orderly.honest v member)] at reads

end Notifier.Sends
end Live

/-! ### Feeds and topics after a fanout -/

/-- How often a post came into a user's feed: as often as it was delivered, or failed only to be told. -/
def Fanout.pushes (delivered : List UserId) (failures : List Failure) (user : UserId) : Nat :=
  delivered.count user + failures.countP fun failure => failure.friend = user ∧ failure.step = .notify

theorem Fanout.pushes_delivered (friend user : UserId) (delivered : List UserId) (failures : List Failure) :
    pushes (friend :: delivered) failures user = pushes delivered failures user + if friend = user then 1 else 0 := by
  simp only [pushes, List.count_cons, beq_iff_eq]
  omega

theorem Fanout.pushes_failed (user : UserId) (delivered : List UserId) (failure : Failure) (failures : List Failure) :
    pushes delivered (failure :: failures) user = pushes delivered failures user + pushes [] [failure] user := by
  simp only [pushes, List.countP_cons, List.count_nil, List.countP_nil]
  omega

namespace Fanout.Outcome

def delivered : Outcome → List UserId
  | success delivered => delivered
  | incomplete report => report.delivered

def failures : Outcome → List Failure
  | success _ => []
  | incomplete report => report.failures

def pushes (outcome : Outcome) (user : UserId) : Nat := Fanout.pushes outcome.delivered outcome.failures user

end Fanout.Outcome

namespace World.Falters
variable {w w' : World} {user : UserId}

theorem notifier_of_push {entry : FeedEntry} {cap : Nat} {reply : Option (Except CacheError Unit)}
    (falters : Falters w ⟨.push user entry cap, reply⟩ w') : w'.notifier = w.notifier := by
  obtain ⟨call, same, rfl, -⟩ | ⟨-, rfl⟩ := falters.effect
  · cases same
    rfl
  · rfl

theorem delivers {post : Post} (falters : Falters w ⟨.publish user post, some (.ok ())⟩ w') :
    w.notifier.isClosed = false ∧ w.notifier.Delivers user post.wire w'.notifier := by
  obtain ⟨call, same, rfl, -⟩ | ⟨bad, -⟩ := falters.effect
  · obtain ⟨rfl, same⟩ := Made.mk.inj same
    have replied := Option.some.inj (eq_of_heq same)
    simp only [perform] at replied ⊢
    split at replied
    · cases replied
    all_goals exact Live.Notifier.delivers ‹_›
  · cases bad

end World.Falters

/-- A user's feed and topic are the same in both worlds. -/
structure World.Alike (user : UserId) (w w' : World) : Prop where
  feed : w'.cache.feed? user = w.cache.feed? user
  topic : w'.notifier.topic? user = w.notifier.topic? user

namespace Service
variable {s : Service} {post : Post} {friend : UserId} {friends : List UserId} {calls : List Made} {reach : Reach}
  {w w' : World}

@[simp] theorem Reach.delivered_outcome (reach : Reach) (post : Post) :
    (reach.outcome post).delivered = reach.delivered := by
  unfold Reach.outcome
  split <;> rfl

@[simp] theorem Reach.failures_outcome (reach : Reach) (post : Post) :
    (reach.outcome post).failures = reach.failures := by
  unfold Reach.outcome
  split
  · exact (List.isEmpty_iff.mp ‹_›).symm
  · rfl

theorem Misses.accepted_eq {failure : Fanout.Failure} (misses : s.Misses post friend calls failure) (user : UserId) :
    acceptedIn user calls = List.replicate (Fanout.pushes [] [failure] user) (.snapshot post) := by
  rw [misses.accepted]
  cases misses with
  | push bad => simp [Fanout.pushes]
  | publish bad =>
    by_cases mine : friend = user
    · simp [Fanout.pushes, mine]
    · simp [Fanout.pushes, mine]

/-- A feed has accepted the post as often as the report tells. -/
theorem Reports.accepted_eq (reports : s.Reports post friends calls reach) (user : UserId) :
    acceptedIn user calls = List.replicate (Fanout.pushes reach.delivered reach.failures user) (.snapshot post) := by
  induction reports with
  | none => rfl
  | @delivered friend friends calls later rest ih =>
    rw [acceptedIn_append, ih, accepted_reachedBy, Fanout.pushes_delivered, List.replicate_add]
    by_cases mine : friend = user
    · simp [mine]
    · simp [mine]
  | stopped fast misses => exact misses.accepted_eq user
  | @missed friend friends first calls failure later best misses rest ih =>
    rw [acceptedIn_append, ih, misses.accepted_eq, ← List.replicate_add, ← Fanout.pushes_failed]

theorem Misses.pushes_le {failure : Fanout.Failure} (misses : s.Misses post friend calls failure) (user : UserId) :
    Fanout.pushes [] [failure] user ≤ if friend = user then 1 else 0 := by
  cases misses <;> by_cases mine : friend = user <;> simp [Fanout.pushes, mine]

/-- The post came into no feed more often than its user is among those it was for. -/
theorem Reports.pushes_le (reports : s.Reports post friends calls reach) (user : UserId) :
    Fanout.pushes reach.delivered reach.failures user ≤ friends.count user := by
  induction reports with
  | none => exact Nat.le_refl _
  | @delivered friend friends calls later rest ih =>
    rw [Fanout.pushes_delivered, List.count_cons]
    simpa using ih
  | @stopped friend friends calls failure fast misses =>
    have one := misses.pushes_le user
    simp only [List.count_cons, beq_iff_eq]
    omega
  | @missed friend friends first calls failure later best misses rest ih =>
    have one := misses.pushes_le user
    rw [Fanout.pushes_failed]
    simp only [List.count_cons, beq_iff_eq]
    omega

theorem Reports.pushes_eq_zero (reports : s.Reports post friends calls reach) {user : UserId} (other : user ∉ friends) :
    Fanout.pushes reach.delivered reach.failures user = 0 := by
  have few := reports.pushes_le user
  rw [List.count_eq_zero_of_not_mem other] at few
  exact Nat.le_zero.mp few

/-- The messages of a fanout go to those whom the post was delivered to. -/
theorem Misses.notifier {failure : Fanout.Failure} (misses : s.Misses post friend calls failure)
    (plays : World.Plays World.Falters w calls w') : w'.notifier = w.notifier := by
  cases misses with
  | push bad =>
    obtain _ | ⟨pushed, ⟨⟩⟩ := plays
    exact pushed.notifier_of_push
  | publish bad =>
    obtain _ | ⟨pushed, _ | ⟨published, ⟨⟩⟩⟩ := plays
    rw [published.unchanged (failed_of_publishCause bad), pushed.notifier_of_push]

theorem Reports.sends (reports : s.Reports post friends calls reach) (plays : World.Plays World.Falters w calls w') :
    w.notifier.Sends post.wire reach.delivered w'.notifier := by
  induction reports generalizing w with
  | none =>
    cases plays
    exact .none _
  | delivered rest ih =>
    obtain _ | ⟨pushed, _ | ⟨published, later⟩⟩ := plays
    obtain ⟨running, delivers⟩ := published.delivers
    rw [pushed.notifier_of_push] at running delivers
    exact .one running delivers (ih later)
  | stopped fast misses =>
    rw [misses.notifier plays]
    exact .none _
  | missed best misses rest ih =>
    obtain ⟨w₁, first, later⟩ := World.plays_append.mp plays
    rw [← misses.notifier first]
    exact ih later

theorem Reports.feed?_eq (reports : s.Reports post friends calls reach)
    (plays : World.Plays World.Falters w calls w') (user : UserId) :
    w'.cache.feed? user =
      if Fanout.pushes reach.delivered reach.failures user = 0 then w.cache.feed? user
      else some ((List.replicate (Fanout.pushes reach.delivered reach.failures user) (FeedEntry.snapshot post) ++
        w.cache.feed user).take s.capacity) := by
  rw [plays.feed? reports.pushes.plain (reports.pushes.never user), reports.accepted_eq]
  simp only [List.replicate_eq_nil_iff]

/-- Nothing is done to users of whom the report does not tell a push. -/
theorem Reports.alike {capacity : Nat} (reports : s.Reports post friends calls reach)
    (plays : World.Plays World.Falters w calls w') (sound : w.notifier.Sound capacity) {user : UserId}
    (none : Fanout.pushes reach.delivered reach.failures user = 0) : w.Alike user w' := by
  refine ⟨?_, ?_⟩
  · rw [reports.feed?_eq plays, if_pos none]
  · refine (reports.sends plays).topic? sound ?_
    exact List.count_eq_zero.mp (Nat.eq_zero_of_add_eq_zero_right none)

/-- Whatever becomes of its calls, a fanout comes to an outcome that names all that has changed. A feed begins with as
many copies of the post as were pushed to it, and is as before if there are none; a viewer has as many more messages to
get, each the post, as it was delivered to the viewer's user; and users that the fanout was not for see no change. -/
theorem fanout_changes (s : Service) (post : Post) (friends : List UserId) (fates : Nat → Fate) (w : World)
    (capacity : Nat) (acts : List Live.Act) :
    let house := (Live.House.empty capacity).run acts
    let before := { w with notifier := house.notifier }
    let course := (s.fanout post friends).course fates before
    let after := course.world
    ∃ outcome, course.answer = some (.ok outcome) ∧
      (∀ user, after.cache.feed? user =
        if outcome.pushes user = 0 then before.cache.feed? user
        else some ((List.replicate (outcome.pushes user) (FeedEntry.snapshot post) ++
          before.cache.feed user).take s.capacity)) ∧
      (∀ v ∈ house.viewers, v.account.present = true → before.notifier.Reads v.account.rest v.stream ∧
        after.notifier.Reads (v.account.rest ++ List.replicate (outcome.delivered.count v.account.user) post.wire)
          v.stream) ∧
      (∀ user, user ∉ outcome.delivered → after.notifier.topic? user = before.notifier.topic? user) ∧
      after.log = before.log ∧ after.graph = before.graph ∧
      ∀ user, user ∉ friends ∨ user = post.author → outcome.pushes user = 0 ∧ before.Alike user after := by
  intro house before course after
  have orderly : house.Orderly capacity := (Live.House.Orderly.empty capacity).run acts
  obtain ⟨outcome, answered⟩ := (s.timed_fanout post friends).answers fates before
  have plays : World.Plays World.Falters before course.calls after := Task.course_plays ..
  obtain ⟨reach, reports, rfl⟩ := goes_fanout_done (Task.course_goes answered)
  have sends := reports.sends plays
  refine ⟨_, answered, ?_, ?_, ?_, ?_, plays.graph, ?_⟩
  · intro user
    simpa only [Fanout.Outcome.pushes, Reach.delivered_outcome, Reach.failures_outcome] using
      reports.feed?_eq plays user
  · intro v member present
    rw [Reach.delivered_outcome]
    exact ⟨orderly.reads v member present, sends.reads orderly member present⟩
  · intro user other
    rw [Reach.delivered_outcome] at other
    exact sends.topic? orderly.sound other
  · exact plays.log_eq reports.pushes.unstored
  · intro user outside
    have other : user ∉ targets post friends := by
      rw [mem_targets]
      tauto
    have none := reports.pushes_eq_zero other
    refine ⟨?_, reports.alike plays orderly.sound none⟩
    simpa only [Fanout.Outcome.pushes, Reach.delivered_outcome, Reach.failures_outcome] using none

/-- A friend who is named twice, and whom the second publish does not reach, has the post twice in the feed. A viewer of
the friend gets it once. -/
theorem fanout_changes_twice :
    let s : Service := { policy := .bestEffort }
    let post : Post := ⟨.ofNat 10, .ofNat 5, "a"⟩
    let house := (Live.House.empty 2).run [.subscribe (.ofNat 1)]
    let fates : Nat → Fate
      | 2 => .refused (.cache (.unavailable "down"))
      | 4 => .unanswered
      | _ => .served
    let course := (s.fanout post [.ofNat 1, .ofNat 5, .ofNat 2, .ofNat 1]).course fates
      { World.empty 2 .ofNat with notifier := house.notifier }
    course.world.cache.feed? (.ofNat 1) = some [.snapshot post, .snapshot post] ∧
      course.world.cache.feed? (.ofNat 2) = none ∧
      ∀ v ∈ house.viewers, course.world.notifier.Reads [post.wire] v.stream := by
  intro s post house fates course
  obtain ⟨outcome, answered, feeds, viewers, -⟩ := fanout_changes s post [.ofNat 1, .ofNat 5, .ofNat 2, .ofNat 1] fates
    (.empty 2 .ofNat) 2 [.subscribe (.ofNat 1)]
  cases answered
  refine ⟨feeds (.ofNat 1), feeds (.ofNat 2), ?_⟩
  intro v member
  obtain rfl := List.mem_singleton.mp member
  exact (viewers _ member rfl).2

end Service
end FeedFanout
