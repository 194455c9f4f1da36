import FeedFanout.Proofs.Effects
import FeedFanout.Proofs.Interference
import Mathlib.Data.List.Nodup

/-!
The two policies side by side. Where the same pushes and publishes fail, a fanout that stops at its first failure goes as
far as one that tries everybody, and leaves out the rest of it (`Service.reach_truncated`). So its report is cut off behind
the first failure, and so is what it has changed (`Service.fanout_truncated`).
-/
namespace FeedFanout

namespace Service
variable {s : Service} {post : Post} {fate : Call → Fate} {w : World} {friend : UserId} {friends : List UserId}

/-- The service with a policy. -/
def under (s : Service) (policy : Policy) : Service := { s with policy }

/-- What follows when a friend was tried. -/
def tried (s : Service) (post : Post) (friend : UserId) (friends : List UserId) :
    Option Fanout.Failure → Task Reach
  | none => .tell (.event (.delivered post.id friend)) <|
    (s.reach post (.snapshot post) friends).bind fun later =>
      .done { later with delivered := friend :: later.delivered }
  | some failure => .tell (.event (.failed post.id friend failure.step)) <|
    .tell (.remark (.friendMissed post.id failure)) (s.passOver post (.snapshot post) failure friends)

theorem reach_cons (s : Service) (post : Post) (friend : UserId) (friends : List UserId) :
    s.reach post (.snapshot post) (friend :: friends) =
      (s.deliver post (.snapshot post) friend).bind (s.tried post friend friends) := by
  change Task.bind _ _ = _
  congr

theorem deliver_under (s : Service) (policy : Policy) (post : Post) (entry : FeedEntry) (friend : UserId) :
    (s.under policy).deliver post entry friend = s.deliver post entry friend := by
  change Task.askWithin s.limit (.push friend entry s.capacity) _ = .askWithin s.limit (.push friend entry s.capacity) _
  congr
  funext reply
  obtain _ | e | done := reply
  · rfl
  · rfl
  · change Task.askWithin s.limit (.publish friend post) _ = .askWithin s.limit (.publish friend post) _
    congr

/-- The first friend is tried in the same way under every policy. -/
theorem facing_reach {failed : Option Fanout.Failure}
    (answered : ((s.deliver post (.snapshot post) friend).facing fate w).answer = some failed) (policy : Policy)
    (friends : List UserId) :
    ((s.under policy).reach post (.snapshot post) (friend :: friends)).facing fate w =
      ((s.deliver post (.snapshot post) friend).facing fate w).andThen
        (((s.under policy).tried post friend friends failed).facing fate
          ((s.deliver post (.snapshot post) friend).facing fate w).world) := by
  rw [reach_cons, deliver_under]
  exact Task.facing_bind answered

theorem facing_deliver (s : Service) (post : Post) (friend : UserId) (fate : Call → Fate) (w : World) :
    ∃ failed, ((s.deliver post (.snapshot post) friend).facing fate w).answer = some failed ∧
      ∀ failure, failed = some failure → failure.friend = friend := by
  obtain ⟨fates, same⟩ := Task.facing_eq fate (s.deliver post (.snapshot post) friend) w
  obtain ⟨failed, answered⟩ := (s.timed_deliver post (.snapshot post) friend).answers fates w
  refine ⟨failed, by rw [same, answered], ?_⟩
  rintro failure rfl
  obtain ⟨none, -⟩ | ⟨_, same, misses⟩ := goes_deliver_done (Task.course_goes answered)
  · cases none
  · cases same
    exact misses.whom

theorem facing_delivered (friend : UserId) {later : Reach}
    (answered : ((s.reach post (.snapshot post) friends).facing fate w).answer = some later) :
    (s.tried post friend friends none).facing fate w =
      (((s.reach post (.snapshot post) friends).facing fate w).answering
        { later with delivered := friend :: later.delivered }).hear (.event (.delivered post.id friend)) :=
  congrArg (Course.hear · (.event (.delivered post.id friend)))
    (Task.facing_map answered fun later => ({ later with delivered := friend :: later.delivered } : Reach))

theorem facing_missed (friend : UserId) (failure : Fanout.Failure) {later : Reach}
    (answered : (((s.under .bestEffort).reach post (.snapshot post) friends).facing fate w).answer = some later) :
    ((s.under .bestEffort).tried post friend friends (some failure)).facing fate w =
      ((((s.under .bestEffort).reach post (.snapshot post) friends).facing fate w).answering
        { later with failures := failure :: later.failures }).hear (.event (.failed post.id friend failure.step)) :=
  congrArg (Course.hear · (.event (.failed post.id friend failure.step)))
    (Task.facing_map answered fun later => ({ later with failures := failure :: later.failures } : Reach))

/-- Fanouts to some friends under both policies: they go the same way if nobody fails, and otherwise up to the first
failure, from where one of them goes on to the others. -/
theorem reach_truncated (s : Service) (post : Post) (friends : List UserId) (fate : Call → Fate) (w : World) :
    let fast := ((s.under .failFast).reach post (.snapshot post) friends).facing fate w
    let best := ((s.under .bestEffort).reach post (.snapshot post) friends).facing fate w
    fast = best ∧ best.answer = some ⟨friends, [], []⟩ ∨
      ∃ before failure after later, friends = before ++ failure.friend :: after ∧
        fast.answer = some ⟨before, [failure], after⟩ ∧
        let rest := ((s.under .bestEffort).reach post (.snapshot post) after).facing fate fast.world
        rest.answer = some later ∧ best.world = rest.world ∧
          best.answer = some ⟨before ++ later.delivered, failure :: later.failures, later.skipped⟩ := by
  induction friends generalizing w with
  | nil => exact .inl ⟨rfl, rfl⟩
  | cons friend friends ih =>
    intro fast best
    obtain ⟨failed, answered, whom⟩ := s.facing_deliver post friend fate w
    have fast_eq : fast = _ := facing_reach answered .failFast friends
    have best_eq : best = _ := facing_reach answered .bestEffort friends
    clear_value fast best
    subst fast_eq best_eq
    generalize (s.deliver post (.snapshot post) friend).facing fate w = one at answered ⊢
    cases failed with
    | none =>
      obtain ⟨same, whole⟩ | ⟨before, failure, after, later, rfl, stopped, more, world, went⟩ := ih one.world
      · have fast := facing_delivered friend whole
        have best := facing_delivered friend (same ▸ whole)
        refine .inl ⟨?_, ?_⟩
        · rw [fast, best, same]
        · rw [fast]
          rfl
      · have fast := facing_delivered friend stopped
        have best := facing_delivered friend went
        refine .inr ⟨friend :: before, failure, after, later, rfl, ?_, ?_, ?_, ?_⟩
        · rw [fast]
          rfl
        · rw [fast]
          exact more
        · rw [fast, best]
          exact world
        · rw [best]
          rfl
    | some failure =>
      obtain rfl := whom failure rfl
      obtain ⟨later, more⟩ := ((s.under .bestEffort).timed_reach post (.snapshot post) friends).facing fate one.world
      refine .inr ⟨[], failure, friends, later, rfl, rfl, more, ?_, ?_⟩
      · rw [facing_missed failure.friend failure more]
        rfl
      · rw [facing_missed failure.friend failure more]
        rfl

theorem facing_fanout {reach : Reach}
    (answered : ((s.reach post (.snapshot post) (targets post friends)).facing fate w).answer = some reach) :
    (s.fanout post friends).facing fate w =
      ((s.reach post (.snapshot post) (targets post friends)).facing fate w).andThen
        ⟨[], [.finished post.id reach.delivered.length reach.skipped.length], some (.ok (reach.outcome post)),
          ((s.reach post (.snapshot post) (targets post friends)).facing fate w).world⟩ := by
  rw [fanout_eq]
  exact Task.facing_bind answered

theorem facing_reports {reach : Reach}
    (answered : ((s.reach post (.snapshot post) friends).facing fate w).answer = some reach) :
    ∃ calls, s.Reports post friends calls reach ∧
      World.Plays World.Falters w calls ((s.reach post (.snapshot post) friends).facing fate w).world := by
  obtain ⟨fates, same⟩ := Task.facing_eq fate (s.reach post (.snapshot post) friends) w
  rw [same] at answered ⊢
  exact ⟨_, goes_reach_done (Task.course_goes answered), Task.course_plays ..⟩

theorem skipped_of_bestEffort {calls : List Made} {reach : Reach} (best : s.policy = .bestEffort)
    (reports : s.Reports post friends calls reach) : reach.skipped = [] := by
  obtain ⟨trials, tells, policed⟩ := reports.trials
  rwa [best] at policed

/-- Fanouts of a post under both policies, where the same pushes and publishes fail. If there is no failure, they are the
same. Otherwise the one that stops at the first failure reports what the other reports up to there and skips the friends
behind it; to them it has done nothing, and to all others the same. -/
theorem fanout_truncated (s : Service) (post : Post) {friends : List UserId} (distinct : friends.Nodup)
    (fate : Call → Fate) (w : World) (capacity : Nat) (acts : List Live.Act) :
    let before := { w with notifier := ((Live.House.empty capacity).run acts).notifier }
    let fast := ((s.under .failFast).fanout post friends).facing fate before
    let best := ((s.under .bestEffort).fanout post friends).facing fate before
    fast = best ∧ best.answer = some (.ok (.success (targets post friends))) ∨
      ∃ reached failure skipped delivered failures,
        targets post friends = reached ++ failure.friend :: skipped ∧
        fast.answer = some (.ok (.incomplete ⟨post.id, reached, [failure], skipped⟩)) ∧
        best.answer = some (.ok (.incomplete ⟨post.id, reached ++ delivered, failure :: failures, []⟩)) ∧
        (∀ user, user ∉ skipped → fast.world.Alike user best.world) ∧
        ∀ user ∈ skipped, before.Alike user fast.world := by
  intro before fast best
  have sound : before.notifier.Sound capacity := ((Live.House.Orderly.empty capacity).run acts).sound
  obtain ⟨same, whole⟩ | ⟨reached, failure, skipped, later, split, stopped, more, world, went⟩ :=
    s.reach_truncated post (targets post friends) fate before
  · have fast_eq : fast = _ := facing_fanout (same ▸ whole)
    have best_eq : best = _ := facing_fanout whole
    rw [fast_eq, best_eq, same]
    exact .inl ⟨rfl, rfl⟩
  · have fast_eq : fast = _ := facing_fanout stopped
    have best_eq : best = _ := facing_fanout went
    obtain ⟨calls, reports, plays⟩ := facing_reports stopped
    obtain ⟨others, later_reports, later_plays⟩ := facing_reports more
    have nobody : later.skipped = [] := skipped_of_bestEffort rfl later_reports
    refine .inr ⟨reached, failure, skipped, later.delivered, later.failures, split, ?_, ?_, ?_, ?_⟩
    · rw [fast_eq]
      rfl
    · rw [best_eq, ← nobody]
      rfl
    · intro user other
      rw [fast_eq, best_eq, world]
      exact later_reports.alike later_plays ((reports.sends plays).sound sound) (later_reports.pushes_eq_zero other)
    · intro user member
      rw [fast_eq]
      refine reports.alike plays sound ?_
      -- The friends are distinct: whoever is skipped was not tried.
      have nodup : (reached ++ failure.friend :: skipped).Nodup := split ▸ distinct.filter _
      obtain ⟨untried, rest⟩ := List.nodup_cons.mp (List.nodup_middle.mp nodup)
      have undelivered : user ∉ reached := fun early => List.disjoint_of_nodup_append rest early member
      have other : failure.friend ≠ user := by
        rintro rfl
        exact untried (List.mem_append_right _ member)
      simp [Fanout.pushes, List.count_eq_zero_of_not_mem undelivered, other]

/-- The second of three friends cannot be told, and the third would miss the post in any case. -/
theorem fanout_truncated_second :
    let s : Service := {}
    let post : Post := ⟨.ofNat 10, .ofNat 5, "a"⟩
    let friends : List UserId := [.ofNat 1, .ofNat 2, .ofNat 3]
    let fate : Call → Fate
      | .publish user _ => if user = .ofNat 2 then .unanswered else .served
      | .push user _ _ => if user = .ofNat 3 then .refused (.cache (.unavailable "down")) else .served
      | _ => .served
    friends.Nodup ∧
      let fast := ((s.under .failFast).fanout post friends).facing fate (.empty 2 .ofNat)
      let best := ((s.under .bestEffort).fanout post friends).facing fate (.empty 2 .ofNat)
      fast.answer =
        some (.ok (.incomplete ⟨post.id, [.ofNat 1], [⟨.ofNat 2, .notify, .timeout s.limit⟩], [.ofNat 3]⟩)) ∧
      fast.world.Alike (.ofNat 2) best.world := by
  intro s post friends fate
  have distinct : friends.Nodup := by decide
  refine ⟨distinct, ?_⟩
  obtain ⟨same, success⟩ | ⟨reached, failure, skipped, delivered, failures, split, fast, best, others, kept⟩ :=
    fanout_truncated s post distinct fate (.empty 2 .ofNat) 2 []
  · cases success
  · cases fast
    exact ⟨rfl, others (.ofNat 2) (by decide)⟩

end Service
end FeedFanout
