import FeedFanout.Proofs.Outcomes

/-!
Fanouts friend by friend. The calls of a fanout fall into trials, one for each friend from the first on
(`Service.Reports.trials`), and each trial comes to nothing or to one failure. So the report covers every position of
the targets once: as delivered, as failed or as skipped (`Service.fanout_partition`).
-/
namespace FeedFanout.Service

/-- How it went with a friend that a fanout tried; without an error, the reply did not come in time. -/
inductive Trial
  | reached (friend : UserId)
  | unwritten (friend : UserId) (error : Option CacheError)
  | unheard (friend : UserId) (error : Option Live.NotifyError)

/-- What a call that failed has replied. -/
def failed {ε : Type} (error : Option ε) : Option (Except ε Unit) := error.map .error

namespace Trial

def friend : Trial → UserId
  | reached friend | unwritten friend _ | unheard friend _ => friend

/-- The calls of a trial. A publish comes after a push that succeeded. -/
def calls (s : Service) (post : Post) : Trial → List Made
  | reached friend =>
    [⟨.push friend (.snapshot post) s.capacity, some (.ok ())⟩, ⟨.publish friend post, some (.ok ())⟩]
  | unwritten friend error => [⟨.push friend (.snapshot post) s.capacity, failed error⟩]
  | unheard friend error =>
    [⟨.push friend (.snapshot post) s.capacity, some (.ok ())⟩, ⟨.publish friend post, failed error⟩]

/-- The failure that a trial comes to, if any. -/
def failure? (s : Service) : Trial → Option Fanout.Failure
  | reached _ => none
  | unwritten friend none => some ⟨friend, .cacheWrite, .timeout s.limit⟩
  | unwritten friend (some e) => some ⟨friend, .cacheWrite, .cache e⟩
  | unheard friend none => some ⟨friend, .notify, .timeout s.limit⟩
  | unheard friend (some e) => some ⟨friend, .notify, .notify e⟩

theorem friend_of_failure? {s : Service} {trial : Trial} {failure : Fanout.Failure}
    (fails : trial.failure? s = some failure) : failure.friend = trial.friend := by
  obtain friend | ⟨friend, _ | e⟩ | ⟨friend, _ | e⟩ := trial <;> cases fails <;> rfl

end Trial

variable {s : Service} {post : Post} {friend : UserId} {friends : List UserId} {calls : List Made}

theorem Misses.trial {failure : Fanout.Failure} (misses : s.Misses post friend calls failure) :
    ∃ trial : Trial, trial.calls s post = calls ∧ trial.friend = friend ∧ trial.failure? s = some failure := by
  cases misses with
  | @push reply cause bad =>
    obtain _ | e | done := reply <;> cases bad
    · exact ⟨.unwritten friend none, rfl, rfl, rfl⟩
    · exact ⟨.unwritten friend (some e), rfl, rfl, rfl⟩
  | @publish reply cause bad =>
    obtain _ | e | done := reply <;> cases bad
    · exact ⟨.unheard friend none, rfl, rfl, rfl⟩
    · exact ⟨.unheard friend (some e), rfl, rfl, rfl⟩

/-- A report of what some trials have come to. -/
structure Tells (s : Service) (post : Post) (friends : List UserId) (calls : List Made) (trials : List Trial)
    (reach : Reach) : Prop where
  calls : calls = trials.flatMap (Trial.calls s post)
  covers : trials.map Trial.friend ++ reach.skipped = friends
  delivered : reach.delivered = (trials.filter fun trial => (trial.failure? s).isNone).map Trial.friend
  failures : reach.failures = trials.filterMap (Trial.failure? s)

namespace Tells
variable {trials : List Trial} {reach : Reach}

/-- One more trial comes before the others. -/
theorem cons (trial : Trial) (tells : s.Tells post friends calls trials reach) :
    s.Tells post (trial.friend :: friends) (trial.calls s post ++ calls) (trial :: trials)
      ⟨if (trial.failure? s).isNone then trial.friend :: reach.delivered else reach.delivered,
        (trial.failure? s).toList ++ reach.failures, reach.skipped⟩ where
  calls := by rw [tells.calls, List.flatMap_cons]
  covers := by rw [List.map_cons, List.cons_append, tells.covers]
  delivered := by
    rw [tells.delivered, List.filter_cons]
    split <;> rfl
  failures := by
    rw [tells.failures, List.filterMap_cons]
    cases trial.failure? s <;> rfl

/-- Where a trial failed last, the others are skipped. -/
theorem stop {trial : Trial} {failure : Fanout.Failure} (fails : trial.failure? s = some failure)
    (friends : List UserId) :
    s.Tells post (trial.friend :: friends) (trial.calls s post) [trial] ⟨[], [failure], friends⟩ where
  calls := by rw [List.flatMap_singleton]
  covers := rfl
  delivered := by simp [fails]
  failures := by simp [fails]

end Tells

/-- What each policy makes of failures: the best effort skips nobody, and otherwise the first failure stands between
those delivered to and those skipped. -/
def Policed (policy : Policy) (targets : List UserId) (reach : Reach) : Prop :=
  match policy with
  | .bestEffort => reach.skipped = []
  | .failFast => reach.failures = [] ∧ reach.skipped = [] ∧ reach.delivered = targets ∨
      ∃ failure, reach.failures = [failure] ∧ reach.delivered ++ failure.friend :: reach.skipped = targets

theorem Reports.trials {reach : Reach} (reports : s.Reports post friends calls reach) :
    ∃ trials, s.Tells post friends calls trials reach ∧ Policed s.policy friends reach := by
  induction reports with
  | none =>
    refine ⟨[], ⟨rfl, rfl, rfl, rfl⟩, ?_⟩
    unfold Policed
    cases s.policy with
    | failFast => exact .inl ⟨rfl, rfl, rfl⟩
    | bestEffort => rfl
  | @delivered friend friends calls later rest ih =>
    obtain ⟨trials, tells, policed⟩ := ih
    refine ⟨.reached friend :: trials, tells.cons (.reached friend), ?_⟩
    unfold Policed at policed ⊢
    cases policy : s.policy with
    | bestEffort =>
      rw [policy] at policed
      exact policed
    | failFast =>
      rw [policy] at policed
      obtain ⟨fine, whole, all⟩ | ⟨failure, one, rest⟩ := policed
      · exact .inl ⟨fine, whole, congrArg (friend :: ·) all⟩
      · exact .inr ⟨failure, one, congrArg (friend :: ·) rest⟩
  | @stopped friend friends calls failure fast misses =>
    obtain ⟨trial, rfl, rfl, fails⟩ := misses.trial
    refine ⟨[trial], .stop fails friends, ?_⟩
    rw [fast]
    exact .inr ⟨failure, rfl, by rw [Trial.friend_of_failure? fails]; rfl⟩
  | @missed friend friends first calls failure later best misses rest ih =>
    obtain ⟨trials, tells, policed⟩ := ih
    obtain ⟨trial, rfl, rfl, fails⟩ := misses.trial
    have whole := tells.cons trial
    rw [fails] at whole
    refine ⟨trial :: trials, whole, ?_⟩
    rw [best] at policed ⊢
    exact policed

/-- A fanout is done with, whatever becomes of its calls. -/
theorem timed_fanout (s : Service) (post : Post) (friends : List UserId) : (s.fanout post friends).Timed := by
  rw [fanout_eq]
  exact Task.Timed.bind (s.timed_reach _ _ _) fun _ => trivial

/-- Whatever becomes of its calls, a fanout to any friends comes to an outcome. Each position of its targets was tried
and is delivered or failed as that trial went, or it comes after all that were tried and is skipped. The outcome is a
success exactly if no trial has failed. -/
theorem fanout_partition (s : Service) (post : Post) (friends : List UserId) (w : World) (fates : Nat → Fate) :
    let course := (s.fanout post friends).course fates w
    let targets := friends.filter (· ≠ post.author)
    ∃ reach trials, course.answer = some (.ok (reach.outcome post)) ∧ s.Tells post targets course.calls trials reach ∧
      Policed s.policy targets reach ∧
      ((∃ delivered, course.answer = some (.ok (.success delivered))) ↔ ∀ trial ∈ trials, trial.failure? s = none) := by
  intro course targets
  obtain ⟨outcome, answered⟩ := (s.timed_fanout post friends).answers fates w
  obtain ⟨reach, reports, rfl⟩ := goes_fanout_done (Task.course_goes answered)
  obtain ⟨trials, tells, policed⟩ := reports.trials
  refine ⟨reach, trials, answered, tells, policed, ?_⟩
  have fine : reach.failures = [] ↔ ∀ trial ∈ trials, trial.failure? s = none := by
    rw [tells.failures, List.filterMap_eq_nil_iff]
  rw [answered, ← fine]
  unfold Reach.outcome
  by_cases none : reach.failures = []
  · simp [none]
  · simp [none]

end FeedFanout.Service
