import FeedFanout.Proofs.Delivery

/-!
What a fanout reports. Its calls and its report belong together (`Service.Reports`): a friend whose feed has accepted the
post is neither skipped nor listed with a failed cache write (`Service.Reports.accepted`), and if all calls succeeded,
every friend was reached (`Service.Reports.whole`). So the calls of a creation tell its answer (`Service.goes_answers`).
-/
namespace FeedFanout

/-- By the report, the post did not come into the user's feed. -/
def Fanout.Partial.Lacks (report : Fanout.Partial) (user : UserId) : Prop :=
  user ∈ report.skipped ∨ ∃ failure ∈ report.failures, failure.friend = user ∧ failure.step = .cacheWrite

instance (report : Fanout.Partial) (user : UserId) : Decidable (report.Lacks user) :=
  inferInstanceAs (Decidable (_ ∨ _))

namespace Service

/-- What a reply to a push means, if it is bad. -/
def pushCause (s : Service) : Option (Except CacheError Unit) → Option Fanout.Cause
  | none => some (.timeout s.limit)
  | some (.error e) => some (.cache e)
  | some (.ok ()) => none

/-- What a reply to a publish means, if it is bad. -/
def publishCause (s : Service) : Option (Except Live.NotifyError Unit) → Option Fanout.Cause
  | none => some (.timeout s.limit)
  | some (.error e) => some (.notify e)
  | some (.ok ()) => none

/-- The calls made for a friend who was not reached, and the failure that they come to. -/
inductive Misses (s : Service) (post : Post) (friend : UserId) : List Made → Fanout.Failure → Prop
  | push {reply : Option (Except CacheError Unit)} {cause : Fanout.Cause} (bad : s.pushCause reply = some cause) :
      Misses s post friend [⟨.push friend (.snapshot post) s.capacity, reply⟩] ⟨friend, .cacheWrite, cause⟩
  | publish {reply : Option (Except Live.NotifyError Unit)} {cause : Fanout.Cause}
      (bad : s.publishCause reply = some cause) :
      Misses s post friend [⟨.push friend (.snapshot post) s.capacity, some (.ok ())⟩, ⟨.publish friend post, reply⟩]
        ⟨friend, .notify, cause⟩

/-- The calls made for a friend who was reached. -/
def reachedBy (s : Service) (post : Post) (friend : UserId) : List Made :=
  [⟨.push friend (.snapshot post) s.capacity, some (.ok ())⟩, ⟨.publish friend post, some (.ok ())⟩]

/-- The calls of a fanout to some friends, and what it reports of them. -/
inductive Reports (s : Service) (post : Post) : List UserId → List Made → Reach → Prop
  | none : Reports s post [] [] ⟨[], [], []⟩
  | delivered {friend : UserId} {friends : List UserId} {calls : List Made} {later : Reach}
      (rest : Reports s post friends calls later) :
      Reports s post (friend :: friends) (s.reachedBy post friend ++ calls)
        { later with delivered := friend :: later.delivered }
  | stopped {friend : UserId} {friends : List UserId} {calls : List Made} {failure : Fanout.Failure}
      (fast : s.policy = .failFast) (misses : s.Misses post friend calls failure) :
      Reports s post (friend :: friends) calls ⟨[], [failure], friends⟩
  | missed {friend : UserId} {friends : List UserId} {first calls : List Made} {failure : Fanout.Failure} {later : Reach}
      (best : s.policy = .bestEffort) (misses : s.Misses post friend first failure)
      (rest : Reports s post friends calls later) :
      Reports s post (friend :: friends) (first ++ calls) { later with failures := failure :: later.failures }

variable {s : Service} {post : Post} {friend : UserId} {friends : List UserId} {calls : List Made}

theorem goes_deliver_done {failed : Option Fanout.Failure}
    (goes : (s.deliver post (.snapshot post) friend).Goes calls (.done failed)) :
    failed = none ∧ calls = s.reachedBy post friend ∨
      ∃ failure, failed = some failure ∧ s.Misses post friend calls failure := by
  change Task.Goes (.askWithin _ _ _) calls _ at goes
  obtain _ | _ | _ | @⟨_, _, _, reply, _, calls, goes⟩ := goes
  obtain _ | e | done := reply
  · cases goes; exact .inr ⟨_, rfl, .push rfl⟩
  · cases goes; exact .inr ⟨_, rfl, .push rfl⟩
  change Task.Goes (.askWithin _ _ _) calls _ at goes
  obtain _ | _ | _ | @⟨_, _, _, reply, _, calls, goes⟩ := goes
  obtain _ | e | done := reply
  · cases goes; exact .inr ⟨_, rfl, .publish rfl⟩
  · cases goes; exact .inr ⟨_, rfl, .publish rfl⟩
  · cases goes; exact .inl ⟨rfl, rfl⟩

theorem goes_reach_done {reach : Reach} (goes : (s.reach post (.snapshot post) friends).Goes calls (.done reach)) :
    s.Reports post friends calls reach := by
  induction friends generalizing calls reach with
  | nil => cases goes; exact .none
  | cons friend friends ih =>
    obtain ⟨-, unfinished⟩ | ⟨failed, first, second, rfl, inside, after⟩ :=
      Task.Goes.of_bind (t := s.deliver post (.snapshot post) friend) goes
    · exact absurd rfl (unfinished reach)
    obtain ⟨rfl, rfl⟩ | ⟨failure, rfl, misses⟩ := goes_deliver_done inside
    · change Task.Goes (.tell _ ((s.reach post (.snapshot post) friends).bind fun later =>
        .done { later with delivered := friend :: later.delivered })) second _ at after
      obtain _ | ⟨after⟩ := after
      obtain ⟨rest, inside, wrapped⟩ := after.of_map
      obtain ⟨later, rfl, rfl⟩ := wrapped reach rfl
      exact .delivered (ih inside)
    · obtain _ | ⟨_ | ⟨after⟩⟩ := after
      change Task.Goes (s.passOver post (.snapshot post) failure friends) second _ at after
      unfold passOver at after
      cases policy : s.policy with
      | failFast =>
        rw [policy] at after
        cases after
        rw [List.append_nil]
        exact .stopped policy misses
      | bestEffort =>
        rw [policy] at after
        obtain ⟨rest, inside, wrapped⟩ := after.of_map
        obtain ⟨later, rfl, rfl⟩ := wrapped reach rfl
        exact .missed policy misses (ih inside)

/-! ### Who has the post -/

theorem accepted_reachedBy (user : UserId) :
    acceptedIn user (s.reachedBy post friend) = if friend = user then [.snapshot post] else [] := by
  rw [reachedBy, acceptedIn_cons, acceptedIn_cons, Made.accepted?_push, Made.accepted?_publish]
  by_cases mine : friend = user
  · simp [mine]
  · simp [mine]

theorem failed_of_pushCause {reply : Option (Except CacheError Unit)} {cause : Fanout.Cause}
    (bad : s.pushCause reply = some cause) (entry : FeedEntry) :
    Made.succeeded ⟨.push friend entry s.capacity, reply⟩ = false := by
  obtain _ | e | done := reply
  · rfl
  · rfl
  · cases bad

theorem failed_of_publishCause {reply : Option (Except Live.NotifyError Unit)} {cause : Fanout.Cause}
    (bad : s.publishCause reply = some cause) : Made.succeeded ⟨.publish friend post, reply⟩ = false := by
  obtain _ | e | done := reply
  · rfl
  · rfl
  · cases bad

theorem Misses.accepted {failure : Fanout.Failure} (misses : s.Misses post friend calls failure) (user : UserId) :
    acceptedIn user calls = if friend = user ∧ failure.step ≠ .cacheWrite then [.snapshot post] else [] := by
  cases misses with
  | push bad => simp [acceptedIn_cons, Made.accepted?_of_failed (failed_of_pushCause bad _)]
  | publish bad =>
    rw [acceptedIn_cons, acceptedIn_cons, Made.accepted?_push, Made.accepted?_publish]
    by_cases mine : friend = user
    · simp [mine]
    · simp [mine]

/-- One of the calls for a friend who was not reached has failed. -/
theorem Misses.failed {failure : Fanout.Failure} (misses : s.Misses post friend calls failure) :
    ∃ made ∈ calls, made.succeeded = false := by
  cases misses with
  | push bad => exact ⟨_, List.mem_cons_self, failed_of_pushCause bad _⟩
  | publish bad => exact ⟨_, List.mem_cons_of_mem _ List.mem_cons_self, failed_of_publishCause bad⟩

theorem Misses.whom {failure : Fanout.Failure} (misses : s.Misses post friend calls failure) :
    failure.friend = friend := by
  cases misses <;> rfl

/-- The report of a fanout that did not reach everybody. -/
def Reach.report (reach : Reach) (post : Post) : Fanout.Partial :=
  ⟨post.id, reach.delivered, reach.failures, reach.skipped⟩

theorem lacks_delivered (reach : Reach) (delivered : List UserId) (user : UserId) :
    (Reach.report { reach with delivered } post).Lacks user ↔ (reach.report post).Lacks user := Iff.rfl

theorem Misses.lacks {failure : Fanout.Failure} (misses : s.Misses post friend calls failure) (reach : Reach)
    (user : UserId) :
    (Reach.report { reach with failures := failure :: reach.failures } post).Lacks user ↔
      friend = user ∧ failure.step = .cacheWrite ∨ (reach.report post).Lacks user := by
  simp only [Fanout.Partial.Lacks, Reach.report, List.exists_mem_cons_iff, misses.whom]
  exact or_left_comm

/-- Nobody is named but those whom the post was for. -/
theorem Reports.named {reach : Reach} (reports : s.Reports post friends calls reach) {user : UserId}
    (lacks : (reach.report post).Lacks user) : user ∈ friends := by
  induction reports with
  | none => rcases lacks with skipped | ⟨failure, failed, -⟩ <;> contradiction
  | delivered rest ih => exact List.mem_cons_of_mem _ (ih ((lacks_delivered ..).mp lacks))
  | stopped fast misses =>
    rcases lacks with skipped | ⟨failure, failed, rfl, -⟩
    · exact List.mem_cons_of_mem _ skipped
    · rw [List.mem_singleton.mp failed, misses.whom]
      exact List.mem_cons_self
  | missed best misses rest ih =>
    rcases (misses.lacks _ user).mp lacks with ⟨rfl, -⟩ | lacks
    · exact List.mem_cons_self
    · exact List.mem_cons_of_mem _ (ih lacks)

/-- The feeds that accepted the post are those of the friends of whom the report does not say otherwise. -/
theorem Reports.accepted {reach : Reach} (reports : s.Reports post friends calls reach) (distinct : friends.Nodup)
    (user : UserId) :
    acceptedIn user calls = if user ∈ friends ∧ ¬(reach.report post).Lacks user then [.snapshot post] else [] := by
  induction reports with
  | none => rfl
  | @delivered friend friends calls later rest ih =>
    obtain ⟨fresh, distinct⟩ := List.nodup_cons.mp distinct
    rw [acceptedIn_append, ih distinct, accepted_reachedBy]
    simp only [lacks_delivered]
    by_cases mine : friend = user
    · subst mine
      have free : ¬(later.report post).Lacks friend := fun lacks => fresh (rest.named lacks)
      simp [fresh, free]
    · simp [mine, Ne.symm mine]
  | @stopped friend friends calls failure fast misses =>
    obtain ⟨fresh, distinct⟩ := List.nodup_cons.mp distinct
    rw [misses.accepted]
    by_cases mine : friend = user
    · subst mine
      simp [Fanout.Partial.Lacks, Reach.report, fresh, misses.whom]
    · by_cases skipped : user ∈ friends
      · simp [Fanout.Partial.Lacks, Reach.report, skipped, mine]
      · simp [skipped, mine, Ne.symm mine]
  | @missed friend friends first calls failure later best misses rest ih =>
    obtain ⟨fresh, distinct⟩ := List.nodup_cons.mp distinct
    rw [acceptedIn_append, ih distinct, misses.accepted]
    simp only [misses.lacks]
    by_cases mine : friend = user
    · subst mine
      have free : ¬(later.report post).Lacks friend := fun lacks => fresh (rest.named lacks)
      simp [fresh, free]
    · simp [mine, Ne.symm mine]

/-- If all calls succeeded, there is no failure to report. -/
theorem Reports.fine {reach : Reach} (reports : s.Reports post friends calls reach)
    (succeeded : ∀ made ∈ calls, made.succeeded = true) : reach.failures = [] := by
  induction reports with
  | none => rfl
  | delivered rest ih => exact ih fun made member => succeeded made (List.mem_append_right _ member)
  | stopped fast misses =>
    obtain ⟨made, member, failed⟩ := misses.failed
    rw [succeeded made member] at failed
    cases failed
  | missed best misses rest ih =>
    obtain ⟨made, member, failed⟩ := misses.failed
    rw [succeeded made (List.mem_append_left _ member)] at failed
    cases failed

/-- Without a failure everybody was reached. -/
theorem Reports.whole {reach : Reach} (reports : s.Reports post friends calls reach) (fine : reach.failures = []) :
    calls = friends.flatMap (s.reachedBy post) ∧ reach.delivered = friends ∧ reach.skipped = [] := by
  induction reports with
  | none => exact ⟨rfl, rfl, rfl⟩
  | delivered rest ih =>
    obtain ⟨rfl, delivered, skipped⟩ := ih fine
    exact ⟨rfl, congrArg _ delivered, skipped⟩
  | stopped | missed => cases fine

/-! ### Creations -/

/-- What a reply to an append means, if it is bad. -/
def appendError (s : Service) (post : Post) : Option (Except StoreError Unit) → Option FeedError
  | none => some (.timeout .append s.limit)
  | some (.error e) => some (refused post e)
  | some (.ok ()) => none

/-- What a reply to a request for friends means, if it is bad. -/
def friendsError (s : Service) (user : UserId) : Option (Except StoreError (List UserId)) → Option FeedError
  | none => some (.timeout .friends s.limit)
  | some (.error e) => some (.friendGraphUnavailable user e)
  | some (.ok _) => none

def Reach.answer (reach : Reach) (post : Post) : Except FeedError PostId :=
  if reach.failures.isEmpty then .ok post.id else .error (.partialFanout (reach.report post))

/-- All calls of a creation, and its answer. -/
inductive Answers (s : Service) (post : Post) : List Made → Except FeedError PostId → Prop
  | unstored {reply : Option (Except StoreError Unit)} {error : FeedError} (bad : s.appendError post reply = some error) :
      Answers s post [⟨.append post, reply⟩] (.error error)
  | unlisted {reply : Option (Except StoreError (List UserId))} {error : FeedError}
      (bad : s.friendsError post.author reply = some error) :
      Answers s post [⟨.append post, some (.ok ())⟩, ⟨.friendsOf post.author, reply⟩] (.error error)
  | reached {friends : List UserId} {calls : List Made} {reach : Reach}
      (reports : s.Reports post (targets post friends) calls reach) :
      Answers s post (⟨.append post, some (.ok ())⟩ :: ⟨.friendsOf post.author, some (.ok friends)⟩ :: calls)
        (reach.answer post)

theorem goes_fanout_done {answer : Except FeedError Fanout.Outcome}
    (goes : (s.fanout post friends).Goes calls (.done answer)) :
    ∃ reach, s.Reports post (targets post friends) calls reach ∧ answer = .ok (reach.outcome post) := by
  rw [fanout_eq] at goes
  obtain ⟨-, unfinished⟩ | ⟨reach, first, second, rfl, inside, after⟩ :=
    Task.Goes.of_bind (t := s.reach post (.snapshot post) (targets post friends)) goes
  · exact absurd rfl (unfinished answer)
  · obtain _ | ⟨⟨⟩⟩ := after
    rw [List.append_nil]
    exact ⟨reach, goes_reach_done inside, rfl⟩

theorem goes_spread_done {answer : Except FeedError PostId}
    (goes : (s.spread post.author post).Goes calls (.done answer)) :
    s.Answers post (⟨.append post, some (.ok ())⟩ :: calls) answer := by
  change Task.Goes (.askWithin _ _ _) calls _ at goes
  obtain _ | _ | _ | @⟨_, _, _, reply, _, calls, goes⟩ := goes
  obtain _ | e | friends := reply
  · cases goes; exact .unlisted rfl
  · cases goes; exact .unlisted rfl
  obtain ⟨-, unfinished⟩ | ⟨outcome, first, second, rfl, inside, after⟩ :=
    Task.Goes.of_bind (t := s.fanout post friends) goes
  · exact absurd rfl (unfinished answer)
  obtain ⟨reach, reports, rfl⟩ := goes_fanout_done inside
  have reached := Answers.reached reports
  by_cases fine : reach.failures.isEmpty
  · rw [Reach.outcome, if_pos fine] at after
    obtain _ | ⟨⟨⟩⟩ := after
    rw [Reach.answer, if_pos fine] at reached
    rwa [List.append_nil]
  · rw [Reach.outcome, if_neg fine] at after
    obtain _ | ⟨⟨⟩⟩ := after
    rw [Reach.answer, if_neg fine] at reached
    rwa [List.append_nil]

/-- The calls of a creation by the post's author tell its answer. Nobody else's creation makes a call. -/
theorem goes_answers {author : UserId} {answer : Except FeedError PostId}
    (goes : (s.createPost author post).Goes calls (.done answer)) :
    post.author = author ∧ s.Answers post calls answer ∨
      post.author ≠ author ∧ calls = [] ∧ answer = .error (mismatch author post) := by
  unfold createPost at goes
  by_cases other : post.author = author
  · subst other
    rw [if_neg (by simp)] at goes
    refine .inl ⟨rfl, ?_⟩
    change Task.Goes (.askWithin _ _ _) calls _ at goes
    obtain _ | _ | _ | @⟨_, _, _, reply, _, calls, goes⟩ := goes
    obtain _ | e | done := reply
    · cases goes; exact .unstored rfl
    · cases goes; exact .unstored rfl
    change Task.Goes (.tell _ (s.spread post.author post)) calls _ at goes
    obtain _ | ⟨goes⟩ := goes
    exact goes_spread_done goes
  · rw [if_pos other] at goes
    cases goes
    exact .inr ⟨other, rfl, rfl⟩

end Service
end FeedFanout
