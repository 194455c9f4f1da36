import FeedFanout.Proofs.Courses
import FeedFanout.Proofs.Report

/-!
Outcomes of creating a post, whatever becomes of the calls. A creation by the post's author takes one of five courses
(`Service.Takes`), and always comes to an answer. The answer tells how much was done, and what was done tells the answer
(`Service.outcome`).
-/
namespace FeedFanout
namespace Service
variable {s : Service} {post : Post} {w : World}

/-! ### Limited time -/

theorem timed_deliver (s : Service) (post : Post) (entry : FeedEntry) (friend : UserId) :
    (s.deliver post entry friend).Timed := by
  rintro (_ | _ | _)
  · trivial
  · trivial
  · rintro (_ | _ | _) <;> trivial

theorem timed_reach (s : Service) (post : Post) (entry : FeedEntry) (friends : List UserId) :
    (s.reach post entry friends).Timed := by
  induction friends with
  | nil => trivial
  | cons friend friends ih =>
    refine Task.Timed.bind (s.timed_deliver post entry friend) ?_
    rintro (_ | failure)
    · change Task.Timed ((s.reach post entry friends).bind fun later =>
        .done { later with delivered := friend :: later.delivered })
      exact Task.Timed.bind ih fun later => trivial
    · change Task.Timed (s.passOver post entry failure friends)
      unfold passOver
      cases s.policy with
      | failFast => trivial
      | bestEffort => exact Task.Timed.bind ih fun later => trivial

/-- The fanout of a stored post to its author's friends. -/
def share (s : Service) (post : Post) (friends : List UserId) : Task (Except FeedError PostId) := do
  match ← s.fanout post friends with
  | .error e => return .error e
  | .ok (.success delivered) =>
    Task.remark (.fanoutComplete post.id delivered.length)
    return .ok post.id
  | .ok (.incomplete report) =>
    Task.remark (.fanoutIncomplete post.id report.delivered.length report.failures.length report.skipped.length)
    return .error (.partialFanout report)

theorem timed_share (s : Service) (post : Post) (friends : List UserId) : (s.share post friends).Timed := by
  refine Task.Timed.bind (t := s.fanout post friends) ?_ ?_
  · rw [fanout_eq]
    exact Task.Timed.bind (s.timed_reach _ _ _) fun reach => trivial
  · rintro (_ | _ | _) <;> trivial

/-- What follows when the friends of a stored post's author were asked for. -/
def shared (s : Service) (post : Post) : Option (Except StoreError (List UserId)) → Task (Except FeedError PostId)
  | none => .done (.error (.timeout .friends s.limit))
  | some (.error e) => .done (.error (.friendGraphUnavailable post.author e))
  | some (.ok friends) => s.share post friends

theorem spread_eq (s : Service) (post : Post) :
    s.spread post.author post = .askWithin s.limit (.friendsOf post.author) (s.shared post) := by
  change Task.askWithin _ _ _ = _
  congr
  funext reply
  obtain _ | _ | _ := reply <;> rfl

/-- What follows when a post was to be stored. -/
def stored (s : Service) (post : Post) : Option (Except StoreError Unit) → Task (Except FeedError PostId)
  | none => .done (.error (.timeout .append s.limit))
  | some (.error e) => .done (.error (refused post e))
  | some (.ok ()) => .tell (.event (.stored post.id)) (s.spread post.author post)

theorem createPost_eq (s : Service) (post : Post) :
    s.createPost post.author post = .askWithin s.limit (.append post) (s.stored post) := by
  rw [createPost, if_neg (by simp)]
  change Task.askWithin _ _ _ = _
  congr
  funext reply
  obtain _ | _ | _ := reply <;> rfl

theorem timed_createPost (s : Service) (author : UserId) (post : Post) : (s.createPost author post).Timed := by
  by_cases mine : post.author = author
  · subst mine
    rw [createPost_eq]
    rintro (_ | _ | _)
    · trivial
    · trivial
    · change (s.spread post.author post).Timed
      rw [spread_eq]
      rintro (_ | _ | friends)
      · trivial
      · trivial
      · exact s.timed_share post friends
  · rw [createPost, if_pos mine]
    trivial

/-! ### Courses -/

/-- How a creation by the post's author goes: the post is not stored, or its author's friends are not known, or it is
pushed to them. -/
inductive Takes (s : Service) (post : Post) (w : World) : Course (Except FeedError PostId) → Prop
  | untold : Takes s post w ⟨[⟨.append post, none⟩], [], some (.error (.timeout .append s.limit)), w⟩
  | refused (e : StoreError) :
      Takes s post w ⟨[⟨.append post, some (.error e)⟩], [], some (.error (refused post e)), w⟩
  | unlisted : Takes s post w ⟨[⟨.append post, some (.ok ())⟩, ⟨.friendsOf post.author, none⟩], [.stored post.id],
      some (.error (.timeout .friends s.limit)), w.stored post⟩
  | unavailable (e : StoreError) :
      Takes s post w ⟨[⟨.append post, some (.ok ())⟩, ⟨.friendsOf post.author, some (.error e)⟩], [.stored post.id],
        some (.error (.friendGraphUnavailable post.author e)), w.stored post⟩
  | reached {calls : List Made} {events : List Event} {reach : Reach} {w' : World}
      (reports : s.Reports post (targets post (w.graph.friendsOf post.author)) calls reach)
      (plays : World.Plays World.Falters (w.stored post) calls w') :
      Takes s post w ⟨⟨.append post, some (.ok ())⟩ ::
          ⟨.friendsOf post.author, some (.ok (w.graph.friendsOf post.author))⟩ :: calls,
        .stored post.id :: events, some (reach.answer post), w'⟩

/-- How the fanout of a stored post goes. -/
theorem course_share (s : Service) (post : Post) (fates : Nat → Fate) (w : World) (friends : List UserId) :
    ∃ calls events reach w', s.Reports post (targets post friends) calls reach ∧
      World.Plays World.Falters w calls w' ∧
      (s.share post friends).course fates w = ⟨calls, events, some (reach.answer post), w'⟩ := by
  obtain ⟨answer, answered⟩ := (s.timed_share post friends).answers fates w
  have plays := Task.course_plays (s.share post friends) fates w
  have goes := Task.course_goes answered
  have answers : s.Answers post (⟨.append post, some (.ok ())⟩ :: ⟨.friendsOf post.author, some (.ok friends)⟩ ::
      ((s.share post friends).course fates w).calls) answer := by
    refine goes_spread_done ?_
    rw [spread_eq]
    exact .askWithin goes
  generalize (s.share post friends).course fates w = course at plays answers answered ⊢
  obtain ⟨calls, events, held, w'⟩ := course
  cases answers with
  | unlisted bad => cases bad
  | reached reports =>
    dsimp only at answered
    subst answered
    exact ⟨calls, events, _, w', reports, plays, rfl⟩

theorem takes_course (s : Service) (post : Post) (w : World) (fates : Nat → Fate) :
    s.Takes post w ((s.createPost post.author post).course fates w) := by
  rw [createPost_eq]
  obtain ⟨reply, w', fates, met, same⟩ := Task.course_askWithin s.limit (.append post) (s.stored post) fates w
  rw [same]
  obtain _ | e | done := reply
  · obtain rfl := met.unchanged rfl
    exact .untold
  · obtain rfl := met.unchanged rfl
    exact .refused e
  obtain rfl := met.stores
  rw [stored, spread_eq]
  obtain ⟨reply, w', fates, met, same⟩ :=
    Task.course_askWithin s.limit (.friendsOf post.author) (s.shared post) fates (w.stored post)
  obtain rfl := met.asks
  rw [Task.course, same]
  obtain _ | e | friends := reply
  · exact .unlisted
  · exact .unavailable e
  obtain rfl := met.friends
  obtain ⟨calls, events, reach, w', reports, plays, same⟩ :=
    s.course_share post fates (w.stored post) ((w.stored post).graph.friendsOf post.author)
  rw [shared, same]
  exact .reached (w := w) reports plays

/-! ### Who was reached -/

section
variable {friends : List UserId} {calls : List Made} {reach : Reach}

theorem Misses.unpublished {friend : UserId} {failure : Fanout.Failure}
    (misses : s.Misses post friend calls failure) (user : UserId) :
    ⟨.publish user post, some (.ok ())⟩ ∉ calls := by
  intro member
  cases misses with
  | push bad => cases List.mem_singleton.mp member
  | publish bad =>
    obtain same | same := List.mem_pair.mp member
    · cases same
    · cases same
      cases bad

theorem Misses.pushes {friend : UserId} {failure : Fanout.Failure} (misses : s.Misses post friend calls failure) :
    s.Pushes post [friend] calls ∧ pushedUsers calls = [friend] := by
  cases misses with
  | push bad => exact ⟨⟨by simp, List.prefix_rfl⟩, rfl⟩
  | publish bad => exact ⟨⟨by simp, List.prefix_rfl⟩, rfl⟩

theorem Reports.pushes (reports : s.Reports post friends calls reach) : s.Pushes post friends calls := by
  induction reports with
  | none => exact .none
  | delivered rest ih => exact Pushes.more ⟨by simp [reachedBy], List.prefix_rfl⟩ rfl ih
  | stopped fast misses => exact misses.pushes.1.first
  | missed best misses rest ih => exact misses.pushes.1.more misses.pushes.2 ih

theorem Pushes.plain (pushes : s.Pushes post friends calls) : ∀ made ∈ calls, made.call.Plain s.capacity := by
  intro made member
  obtain ⟨user, same⟩ | ⟨user, same⟩ := pushes.each made member
  all_goals rw [same]; simp [Call.Plain]

theorem Pushes.never (pushes : s.Pushes post friends calls) (user : UserId) : ∀ made ∈ calls, ¬made.Rebuilds user := by
  rintro made member ⟨entries, cap, rebuilds⟩
  obtain ⟨other, same⟩ | ⟨other, same⟩ := pushes.each made member
  all_goals rw [same] at rebuilds; cases rebuilds

theorem Pushes.append_notMem (pushes : s.Pushes post friends calls) (other : Post)
    (reply : Option (Except StoreError Unit)) : ⟨.append other, reply⟩ ∉ calls := by
  intro member
  obtain ⟨user, same⟩ | ⟨user, same⟩ := pushes.each _ member
  · cases same
  · cases same

theorem Pushes.unstored (pushes : s.Pushes post friends calls) : ∀ made ∈ calls, made.stored? = Option.none := by
  rintro ⟨call, reply⟩ member
  obtain ⟨user, rfl⟩ | ⟨user, rfl⟩ := pushes.each _ member
  · rfl
  · rfl

theorem Reports.published (reports : s.Reports post friends calls reach) (user : UserId) :
    ⟨.publish user post, some (.ok ())⟩ ∈ calls ↔ user ∈ reach.delivered := by
  induction reports with
  | none => simp
  | delivered rest ih => simp [reachedBy, ih]
  | stopped fast misses => simp [misses.unpublished user]
  | missed best misses rest ih => simp [misses.unpublished user, ih]

/-- The friends who were reached are those whom the fanout has delivered to. -/
theorem Reports.reached_iff (reports : s.Reports post friends calls reach) (user : UserId) :
    s.reachedBy post user ⊆ calls ↔ user ∈ reach.delivered := by
  constructor
  · intro reached
    exact (reports.published user).mp (reached (by simp [reachedBy]))
  · intro member
    induction reports with
    | none => cases member
    | delivered rest ih =>
      rcases List.mem_cons.mp member with rfl | later
      · exact List.subset_append_left ..
      · exact List.Subset.trans (ih later) (List.subset_append_right ..)
    | stopped fast misses => cases member
    | missed best misses rest ih => exact List.Subset.trans (ih member) (List.subset_append_right ..)

theorem Reports.delivered_sublist (reports : s.Reports post friends calls reach) : reach.delivered.Sublist friends := by
  induction reports with
  | none => exact .slnil
  | delivered rest ih => exact ih.cons_cons _
  | stopped fast misses => exact List.nil_sublist _
  | missed best misses rest ih => exact ih.cons _

/-- There is no failure if everybody was reached. -/
theorem Reports.fine_iff (reports : s.Reports post friends calls reach) (distinct : friends.Nodup) :
    reach.failures = [] ↔ ∀ friend ∈ friends, friend ∈ reach.delivered := by
  constructor
  · intro fine friend member
    rw [(reports.whole fine).2.1]
    exact member
  · intro all
    induction reports with
    | none => rfl
    | @delivered friend friends calls later rest ih =>
      obtain ⟨fresh, distinct⟩ := List.nodup_cons.mp distinct
      refine ih distinct fun other member => ?_
      rcases List.mem_cons.mp (all other (List.mem_cons_of_mem _ member)) with rfl | reached
      · exact absurd member fresh
      · exact reached
    | stopped fast misses => cases all _ List.mem_cons_self
    | missed best misses rest ih =>
      have reached := rest.delivered_sublist.subset (all _ List.mem_cons_self)
      exact absurd reached (List.nodup_cons.mp distinct).1

/-- When everybody was reached, every friend's feed begins with the post. -/
theorem Reports.feed? {w w' : World} (reports : s.Reports post friends calls reach) (distinct : friends.Nodup)
    (fine : reach.failures = []) (plays : World.Plays World.Falters w calls w') {friend : UserId}
    (member : friend ∈ friends) :
    w'.cache.feed? friend = some ((.snapshot post :: w.cache.feed friend).take s.capacity) := by
  have free : ¬(reach.report post).Lacks friend := by
    simp [Fanout.Partial.Lacks, Reach.report, fine, (reports.whole fine).2.2]
  have accepted : acceptedIn friend calls = [.snapshot post] :=
    (reports.accepted distinct friend).trans (if_pos ⟨member, free⟩)
  rw [plays.feed? reports.pushes.plain (reports.pushes.never friend), accepted, if_neg (by simp)]
  rfl

/-- A fanout is without failures if its calls and those before it have reached all friends but the author. -/
theorem Reports.fine_iff_reached (reports : s.Reports post (targets post friends) calls reach)
    (distinct : friends.Nodup) (stored : Option (Except StoreError Unit))
    (listed : Option (Except StoreError (List UserId))) :
    reach.failures.isEmpty = true ↔ ∀ friend ∈ friends, friend ≠ post.author →
      s.reachedBy post friend ⊆ ⟨.append post, stored⟩ :: ⟨.friendsOf post.author, listed⟩ :: calls := by
  have among (friend : UserId) :
      s.reachedBy post friend ⊆ ⟨.append post, stored⟩ :: ⟨.friendsOf post.author, listed⟩ :: calls ↔
        friend ∈ reach.delivered := by
    rw [← reports.reached_iff]
    simp [reachedBy]
  rw [List.isEmpty_iff, reports.fine_iff (distinct.filter _)]
  simp [among]

end

namespace Reach
variable {reach : Reach} {post : Post}

theorem answer_ne_failed (reach : Reach) (post : Post) {error : FeedError}
    (other : ∀ report, error ≠ .partialFanout report) : reach.answer post ≠ .error error := by
  unfold answer
  split
  · nofun
  · intro same
    cases same
    exact other _ rfl

theorem answer_ok_iff {id : PostId} : reach.answer post = .ok id ↔ id = post.id ∧ reach.failures.isEmpty = true := by
  by_cases fine : reach.failures.isEmpty = true <;> simp [answer, fine, eq_comm]

theorem answer_partial_iff :
    (∃ report, reach.answer post = .error (.partialFanout report)) ↔ ¬reach.failures.isEmpty = true := by
  by_cases fine : reach.failures.isEmpty = true <;> simp [answer, fine]

end Reach

/-! ### Outcomes -/

/-- What is left when a creation has come to an answer. -/
def Leaves (s : Service) (post : Post) (w : World) (course : Course (Except FeedError PostId)) :
    Except FeedError PostId → Prop
  | .ok _ => course.world.log = (w.stored post).log ∧
      ∀ friend ∈ w.graph.friendsOf post.author, friend ≠ post.author →
        course.world.cache.feed? friend = some ((.snapshot post :: w.cache.feed friend).take s.capacity)
  | .error (.validation _) | .error (.duplicatePost _) | .error (.storageUnavailable _) => Untouched
  | .error (.friendGraphUnavailable ..) => Stored
  | .error (.partialFanout _) => course.world.log = (w.stored post).log
  | .error (.timeout operation _) =>
    match operation.dependency with
    | .postStore => Untouched
    | .friendGraph => Stored
    | .feedCache => False
  | .error (.corruptEntry _) => False
where
  Untouched := course.world = w ∧ course.events = []
  Stored := course.world = w.stored post ∧ course.events = [.stored post.id]

namespace Takes
variable {course : Course (Except FeedError PostId)} {answer : Except FeedError PostId}

theorem leaves (takes : s.Takes post w course) (answered : course.answer = some answer) :
    s.Leaves post w course answer := by
  cases takes with
  | refused e =>
    cases answered
    cases e <;> exact ⟨rfl, rfl⟩
  | reached reports plays =>
    cases answered
    have log := plays.log_eq reports.pushes.unstored
    have distinct : (targets post (w.graph.friendsOf post.author)).Nodup := (w.graph.nodup_friendsOf _).filter _
    unfold Reach.answer
    split
    · refine ⟨log, ?_⟩
      intro friend member other
      exact reports.feed? distinct (List.isEmpty_iff.mp ‹_›) plays (mem_targets.mpr ⟨member, other⟩)
    · exact log
  | untold | unlisted | unavailable =>
    cases answered
    exact ⟨rfl, rfl⟩

theorem not_validation (takes : s.Takes post w course) (answered : course.answer = some answer) (message : String) :
    answer ≠ .error (.validation message) := by
  cases takes with
  | refused e =>
    cases answered
    cases e <;> nofun
  | @reached calls events reach w' reports plays =>
    cases answered
    exact reach.answer_ne_failed post nofun
  | untold | unlisted | unavailable =>
    cases answered
    nofun

theorem duplicate_iff (takes : s.Takes post w course) (answered : course.answer = some answer) (id : PostId) :
    answer = .error (.duplicatePost id) ↔
      id = post.id ∧ ∃ constraint, ⟨.append post, some (.error (.duplicate constraint))⟩ ∈ course.calls := by
  cases takes with
  | refused e =>
    cases answered
    cases e <;> simp [Service.refused, eq_comm]
  | @reached calls events reach w' reports plays =>
    cases answered
    have other : reach.answer post ≠ .error (.duplicatePost id) := reach.answer_ne_failed post nofun
    simp [other, reports.pushes.append_notMem]
  | untold | unlisted | unavailable =>
    cases answered
    simp

theorem partial_iff (takes : s.Takes post w course) (answered : course.answer = some answer) :
    (∃ report, answer = .error (.partialFanout report)) ↔
      ⟨.friendsOf post.author, some (.ok (w.graph.friendsOf post.author))⟩ ∈ course.calls ∧
        ∃ friend ∈ w.graph.friendsOf post.author, friend ≠ post.author ∧ ¬s.reachedBy post friend ⊆ course.calls := by
  cases takes with
  | refused e =>
    cases answered
    cases e <;> simp [Service.refused]
  | @reached calls events reach w' reports plays =>
    cases answered
    rw [Reach.answer_partial_iff, reports.fine_iff_reached (w.graph.nodup_friendsOf _) (some (.ok ()))
      (some (.ok (w.graph.friendsOf post.author)))]
    simp
  | untold | unlisted | unavailable =>
    cases answered
    simp

theorem ok_iff (takes : s.Takes post w course) (answered : course.answer = some answer) (id : PostId) :
    answer = .ok id ↔ id = post.id ∧ ⟨.append post, some (.ok ())⟩ ∈ course.calls ∧
      ⟨.friendsOf post.author, some (.ok (w.graph.friendsOf post.author))⟩ ∈ course.calls ∧
        ∀ friend ∈ w.graph.friendsOf post.author, friend ≠ post.author → s.reachedBy post friend ⊆ course.calls := by
  cases takes with
  | refused e =>
    cases answered
    cases e <;> simp [Service.refused]
  | @reached calls events reach w' reports plays =>
    cases answered
    rw [Reach.answer_ok_iff, reports.fine_iff_reached (w.graph.nodup_friendsOf _) (some (.ok ()))
      (some (.ok (w.graph.friendsOf post.author)))]
    simp
  | untold | unlisted | unavailable =>
    cases answered
    simp

end Takes

/-- Whatever becomes of its calls, the creation of a post comes to an answer, and the answer tells what is left. It
fails as invalid exactly if somebody else is the author, as a duplicate exactly if the store says so, and in part exactly
if the friends were known and one of them was not reached. It succeeds exactly if the post was stored, the friends were
known and all of them were reached. -/
theorem outcome (s : Service) (author : UserId) (post : Post) (w : World) (fates : Nat → Fate) :
    let course := (s.createPost author post).course fates w
    let listed := ⟨.friendsOf author, some (.ok (w.graph.friendsOf author))⟩ ∈ course.calls
    ∃ answer, course.answer = some answer ∧ s.Leaves post w course answer ∧
      ((∃ message, answer = .error (.validation message)) ↔ post.author ≠ author) ∧
      (∀ id, answer = .error (.duplicatePost id) ↔
        id = post.id ∧ ∃ constraint, ⟨.append post, some (.error (.duplicate constraint))⟩ ∈ course.calls) ∧
      ((∃ report, answer = .error (.partialFanout report)) ↔
        listed ∧ ∃ friend ∈ w.graph.friendsOf author, friend ≠ author ∧ ¬s.reachedBy post friend ⊆ course.calls) ∧
      ∀ id, answer = .ok id ↔
        id = post.id ∧ ⟨.append post, some (.ok ())⟩ ∈ course.calls ∧ listed ∧
          ∀ friend ∈ w.graph.friendsOf author, friend ≠ author → s.reachedBy post friend ⊆ course.calls := by
  intro course listed
  by_cases mine : post.author = author
  · subst mine
    obtain ⟨answer, answered⟩ := (s.timed_createPost post.author post).answers fates w
    have takes := s.takes_course post w fates
    exact ⟨answer, answered, takes.leaves answered, by simp [takes.not_validation answered],
      takes.duplicate_iff answered, takes.partial_iff answered, takes.ok_iff answered⟩
  · have same : course = ⟨[], [], some (.error (mismatch author post)), w⟩ := by
      simp only [course, createPost, if_pos mine]
      rfl
    clear_value course
    subst same
    refine ⟨_, rfl, ⟨rfl, rfl⟩, ?_⟩
    simp [mine, mismatch, listed]

/-- Nobody can have missed the post of an author without friends, and yet its creation fails if the friends cannot be
asked for. -/
theorem outcome_unlisted :
    ¬∀ (s : Service) (author : UserId) (post : Post) (w : World) (fates : Nat → Fate),
      let course := (s.createPost author post).course fates w
      course.answer = some (.ok post.id) ↔ ⟨.append post, some (.ok ())⟩ ∈ course.calls ∧
        ∀ friend ∈ w.graph.friendsOf author, friend ≠ author → s.reachedBy post friend ⊆ course.calls := by
  intro all
  let fates : Nat → Fate
    | 0 => .served
    | _ => .refused (.store (.persistence "down"))
  have created := (all {} (.ofNat 2) ⟨.ofNat 10, .ofNat 2, "a"⟩ (.empty 1 .ofNat) fates).mpr
    ⟨List.mem_cons_self, nofun⟩
  cases created

end Service
end FeedFanout
