import FeedFanout.Proofs.Kinship
import FeedFanout.Simulation.Job

/-!
Twins under way. In two programs that stay beside each other, twins get equally far and wait for the same moments
(`advance_beside`, `resume_beside`). So do pools of rebuilds, jobs, and the warm runs at regular times, and plans that
are twins come to the same whatever warm runs go on beside them (`carryOut_ends`).
-/
namespace FeedFanout.Simulation

/-! ### Waits -/

/-- Twins that wait in the same call. -/
inductive Waiting.Akin {α : Type} (good : α → α → Prop) : Waiting α → Waiting α → Prop
  | intro {call : Call} (deadline wake : Option Nat) (hold : Hold) {ticket ticket' : Nat} (same : ticket = ticket')
      {next next' : Option call.Reply → Task α}
      (later : ∀ reply reply', Option.Rel call.Akin reply reply' → (next reply).Twin good (next' reply')) :
      Akin good ⟨call, deadline, wake, hold, ticket, next⟩ ⟨call, deadline, wake, hold, ticket', next'⟩

inductive Progress.Akin {α : Type} (good : α → α → Prop) : Progress α → Progress α → Prop
  | finished {a b : α} (same : good a b) : Akin good (.finished a) (.finished b)
  | waiting {wait other : Waiting α} (akin : wait.Akin good other) : Akin good (.waiting wait) (.waiting other)

variable {α : Type} {good : α → α → Prop} {s t : State}

/-- Twins get equally far. -/
theorem advance_beside {first second : Task α} (twin : first.Twin good second) (alike : s.Alike t) (setup : Setup) :
    Beside (Progress.Akin good) (advance setup first s) (advance setup second t) := by
  induction twin generalizing s t with
  | done same => exact ⟨.finished same, alike⟩
  | @event e first second _ ih =>
    exact ih { alike with told := alike.told.event setup.audience e }
  | remark counted _ ih => exact ih (alike.remark counted)
  | @ask call f g later ih =>
    simp only [advance]
    refine (beginCall_beside alike setup call none).elim ?_
    intro pending pending' s t same after
    cases same with
    | replied same =>
      cases same with
      | some akin => exact ih _ _ akin after
      | none => exact ⟨.waiting (.intro _ _ _ after.waits fun _ _ _ => .ask later), after⟩
    | waits wake hold =>
      refine ⟨.waiting (.intro _ _ _ after.waits ?_), after.wait⟩
      rintro _ _ (akin | _)
      · exact later _ _ akin
      · exact .ask later
  | @askWithin limit call f g later ih =>
    simp only [advance, alike.clock]
    refine (beginCall_beside alike setup call (some (t.clock + limit.millis))).elim ?_
    intro pending pending' s t same after
    cases same with
    | replied same => exact ih _ _ same after
    | waits wake hold => exact ⟨.waiting (.intro _ _ _ after.waits later), after.wait⟩

/-- Twins that have waited get equally far again. -/
theorem resume_beside {wait other : Waiting α} (akin : wait.Akin good other) (alike : s.Alike t) (setup : Setup) :
    Beside (Progress.Akin good) (wait.resume setup s) (other.resume setup t) := by
  obtain @⟨call, deadline, wake, hold, ticket, ticket', same, next, next', later⟩ := akin
  unfold Waiting.resume
  cases hold with
  | expire => exact advance_beside (later _ _ .none) alike setup
  | forever => exact ⟨.waiting (.intro _ _ _ same later), alike⟩
  | perform part =>
    dsimp only
    refine (resumeCall_beside alike setup call part deadline).elim ?_
    intro pending pending' s t same after
    cases same with
    | replied same => exact advance_beside (later _ _ same) after setup
    | waits wake hold => exact ⟨.waiting (.intro _ _ _ after.waits later), after.wait⟩

/-! ### Pools -/

/-- What is going on for the same user. -/
inductive Fellows {X : Type} (akin : X → X → Prop) : UserId × X → UserId × X → Prop
  | intro (user : UserId) {a b : X} (same : akin a b) : Fellows akin (user, a) (user, b)

theorem Waiting.Akin.wake {wait other : Waiting α} (akin : wait.Akin good other) : wait.wake = other.wake := by
  cases akin
  rfl

theorem Waiting.Akin.ticket {wait other : Waiting α} (akin : wait.Akin good other) : wait.ticket = other.ticket := by
  cases akin
  assumption

/-- Rebuilds of the same user's feed that wait alike. -/
abbrev Rebuild.Akin : UserId × Waiting (Except WarmError Unit) → UserId × Waiting (Except WarmError Unit) → Prop :=
  Fellows (Waiting.Akin (Agree WarmError.Akin Eq))

theorem Fellows.wake {wait other : UserId × Waiting (Except WarmError Unit)} (akin : Rebuild.Akin wait other) :
    wait.2.wake = other.2.wake := by
  cases akin with
  | intro user same => exact same.wake

theorem Fellows.ticket {wait other : UserId × Waiting (Except WarmError Unit)} (akin : Rebuild.Akin wait other) :
    wait.2.ticket = other.2.ticket := by
  cases akin with
  | intro user same => exact same.ticket

inductive Ready.Akin : Ready → Ready → Prop
  | start : Akin .start .start
  | resume {wait other : Waiting (Except WarmError Unit)} (akin : wait.Akin (Agree WarmError.Akin Eq) other) :
      Akin (.resume wait) (.resume other)

/-- Pools with the same users at the same points. -/
structure Pool.Akin (p q : Pool) : Prop where
  later : p.later = q.later
  ready : List.Forall₂ (Fellows Ready.Akin) p.ready q.ready
  waiting : List.Forall₂ Rebuild.Akin p.waiting q.waiting
  finished : List.Forall₂ Warmed.Akin p.finished q.finished

namespace Pool

theorem akin_make (concurrency : Nat) (users : List UserId) : (make concurrency users).Akin (make concurrency users) :=
  ⟨rfl, List.forall₂_map_left_iff.2 (List.forall₂_map_right_iff.2 (List.forall₂_same.2 fun user _ => ⟨user, .start⟩)),
    .nil, .nil⟩

theorem akin_insertWait {wait other : UserId × Waiting (Except WarmError Unit)} (first : Rebuild.Akin wait other)
    {waits others : List (UserId × Waiting (Except WarmError Unit))} (akin : List.Forall₂ Rebuild.Akin waits others) :
    List.Forall₂ Rebuild.Akin (insertWait wait waits) (insertWait other others) := by
  induction akin with
  | nil => exact .cons first .nil
  | cons second rest ih =>
    simp only [insertWait, first.wake, first.ticket, second.wake, second.ticket]
    split
    · exact .cons first (.cons second rest)
    · exact .cons second ih

namespace Akin
variable {p q : Pool}

theorem isFinished (akin : p.Akin q) : p.isFinished = q.isFinished := by
  have ready : p.ready.isEmpty = q.ready.isEmpty := by
    rw [Bool.eq_iff_iff, List.isEmpty_iff_length_eq_zero, akin.ready.length_eq, List.isEmpty_iff_length_eq_zero]
  have waiting : p.waiting.isEmpty = q.waiting.isEmpty := by
    rw [Bool.eq_iff_iff, List.isEmpty_iff_length_eq_zero, akin.waiting.length_eq, List.isEmpty_iff_length_eq_zero]
  rw [Pool.isFinished, Pool.isFinished, akin.later, ready, waiting]

theorem wake (akin : p.Akin q) : p.wake = q.wake := by
  have moments : p.waiting.filterMap (·.2.wake) = q.waiting.filterMap (·.2.wake) := by
    rw [← List.forall₂_eq_eq_eq]
    refine List.rel_filterMap (fun wait other same => ?_) akin.waiting
    rw [same.wake]
    cases other.2.wake with
    | none => exact .none
    | some moment => exact .some rfl
  rw [Pool.wake, Pool.wake, moments]

theorem ticket (akin : p.Akin q) : p.ticket = q.ticket := by
  have gone : List.Forall₂ Rebuild.Akin (p.waiting.filter fun w => w.2.wake = p.wake)
      (q.waiting.filter fun w => w.2.wake = q.wake) := by
    refine List.rel_filter (fun wait other same => ?_) akin.waiting
    simp only [decide_eq_true_eq, same.wake, akin.wake]
  have tickets : (p.waiting.filter fun w => w.2.wake = p.wake).map (fun w => w.2.ticket) =
      (q.waiting.filter fun w => w.2.wake = q.wake).map (fun w => w.2.ticket) := by
    rw [← List.forall₂_eq_eq_eq]
    exact List.rel_map (fun _ _ same => same.ticket) gone
  exact congrArg List.min? tickets

theorem startNext (akin : p.Akin q) : p.startNext.Akin q.startNext := by
  obtain ⟨later, ready, waiting, finished⟩ := akin
  unfold Pool.startNext
  rw [later]
  split
  · exact ⟨later, ready, waiting, finished⟩
  · exact ⟨rfl, List.rel_append ready (.cons ⟨_, .start⟩ .nil), waiting, finished⟩

theorem rouse (akin : p.Akin q) (now : Nat) : (p.rouse now).Akin (q.rouse now) := by
  have expired : List.Forall₂ Rebuild.Akin
      ((p.waiting.filter fun w => w.2.wake.any (· ≤ now)).foldr insertWait [])
      ((q.waiting.filter fun w => w.2.wake.any (· ≤ now)).foldr insertWait []) := by
    have insert : Relator.LiftFun Rebuild.Akin (Relator.LiftFun (List.Forall₂ Rebuild.Akin) (List.Forall₂ Rebuild.Akin))
        insertWait insertWait := fun _ _ first _ _ rest => akin_insertWait first rest
    refine List.rel_foldr insert .nil ?_
    refine List.rel_filter (fun wait other same => ?_) akin.waiting
    simp only [same.wake]
  refine ⟨akin.later, List.rel_append akin.ready (List.rel_map ?_ expired), ?_, akin.finished⟩
  · rintro _ _ ⟨user, same⟩
    exact ⟨user, .resume same⟩
  · refine List.rel_filter (fun wait other same => ?_) akin.waiting
    simp only [same.wake]

end Akin

variable (setup : Setup)

theorem run_beside (user : UserId) {ready other : Ready} (akin : ready.Akin other) (alike : s.Alike t) :
    Beside (Progress.Akin (Agree WarmError.Akin Eq)) (run setup user ready s) (run setup user other t) := by
  cases akin with
  | start => exact advance_beside (setup.warmer.twin_warmUser user) alike setup
  | resume akin => exact resume_beside akin alike setup

theorem settle_beside (fuel : Nat) {p q : Pool} (akin : p.Akin q) (alike : s.Alike t) :
    Beside Pool.Akin (p.settle setup fuel s) (q.settle setup fuel t) := by
  induction fuel generalizing p q s t with
  | zero => exact ⟨akin, alike⟩
  | succ fuel ih =>
    obtain ⟨later, ready, waiting, finished⟩ := p
    obtain ⟨later', ready', waiting', finished'⟩ := q
    obtain ⟨same, readies, waits, ends⟩ := akin
    simp only at same readies waits ends
    cases readies with
    | nil => exact ⟨⟨same, .nil, waits, ends⟩, alike⟩
    | cons first rest =>
      obtain ⟨user, first⟩ := first
      simp only [settle]
      refine (run_beside setup user first alike).elim ?_
      intro progress progress' s t reached after
      cases reached with
      | finished result => exact ih (Akin.startNext ⟨same, rest, waits, .cons ⟨user, result⟩ ends⟩) after
      | waiting wait => exact ih ⟨same, rest, List.rel_append waits (.cons ⟨user, wait⟩ .nil), ends⟩ after

theorem settleAll_beside {p q : Pool} (akin : p.Akin q) (alike : s.Alike t) :
    Beside Pool.Akin (p.settleAll setup s) (q.settleAll setup t) := by
  rw [settleAll, settleAll, ← akin.ready.length_eq, ← akin.later]
  exact settle_beside setup _ akin alike

end Pool

/-! ### Jobs -/

inductive Job.Akin (good : α → α → Prop) : Job α → Job α → Prop
  | before {wait other : Waiting (Stage α)} (akin : wait.Akin (Stage.Akin good) other) :
      Akin good (.before wait) (.before other)
  | warming {pool other : Pool} (akin : pool.Akin other) {finish finish' : List Warmed → Task α}
      (later : ∀ results others, List.Forall₂ Warmed.Akin results others → (finish results).Twin good (finish' others)) :
      Akin good (.warming pool finish) (.warming other finish')
  | after {wait other : Waiting α} (akin : wait.Akin good other) : Akin good (.after wait) (.after other)
  | sleep (moment : Nat) {a b : α} (same : good a b) : Akin good (.sleep moment a) (.sleep moment b)

inductive Turn.Akin (good : α → α → Prop) : Turn α → Turn α → Prop
  | finished {a b : α} (same : good a b) : Akin good (.finished a) (.finished b)
  | going {job other : Job α} (akin : job.Akin good other) : Akin good (.going job) (.going other)

namespace Job

theorem Akin.wake {job other : Job α} (akin : job.Akin good other) : job.wake = other.wake := by
  cases akin with
  | before akin | after akin => exact Waiting.Akin.wake akin
  | warming akin => exact Pool.Akin.wake akin
  | sleep => rfl

theorem Akin.ticket {job other : Job α} (akin : job.Akin good other) : job.ticket = other.ticket := by
  cases akin with
  | before akin | after akin => exact Waiting.Akin.ticket akin
  | warming akin => exact congrArg (·.getD 0) (Pool.Akin.ticket akin)
  | sleep => rfl

variable (setup : Setup)

theorem ofLast_beside {p q : Progress α × State} (reached : Beside (Progress.Akin good) p q) :
    Beside (Turn.Akin good) (ofLast p) (ofLast q) := by
  obtain ⟨same | akin, alike⟩ := reached
  · exact ⟨.finished same, alike⟩
  · exact ⟨.going (.after akin), alike⟩

theorem ofPool_beside {p q : Pool} (akin : p.Akin q) {finish finish' : List Warmed → Task α}
    (later : ∀ results others, List.Forall₂ Warmed.Akin results others → (finish results).Twin good (finish' others))
    (alike : s.Alike t) : Beside (Turn.Akin good) (ofPool setup p finish s) (ofPool setup q finish' t) := by
  unfold ofPool
  refine (Pool.settleAll_beside setup akin alike).elim ?_
  intro p q s t akin after
  dsimp only
  rw [akin.isFinished]
  split
  · exact ofLast_beside (advance_beside (later _ _ (List.rel_reverse akin.finished)) after setup)
  · exact ⟨.going (.warming akin later), after⟩

theorem ofFirst_beside {p q : Progress (Stage α) × State} (reached : Beside (Progress.Akin (Stage.Akin good)) p q) :
    Beside (Turn.Akin good) (ofFirst setup p) (ofFirst setup q) := by
  obtain ⟨(same | ⟨users, later⟩) | akin, alike⟩ := reached
  · exact ⟨.finished same, alike⟩
  · exact ofPool_beside setup (Pool.akin_make _ users) later alike
  · exact ⟨.going (.before akin), alike⟩

theorem begin_beside {plan other : Plan α} (twin : plan.Twin (Stage.Akin good) other) (alike : s.Alike t) :
    Beside (Turn.Akin good) (Job.begin setup plan s) (Job.begin setup other t) :=
  ofFirst_beside setup (advance_beside twin alike setup)

theorem resume_beside {job other : Job α} (akin : job.Akin good other) (alike : s.Alike t) :
    Beside (Turn.Akin good) (job.resume setup s) (other.resume setup t) := by
  cases akin with
  | before akin => exact ofFirst_beside setup (Simulation.resume_beside akin alike setup)
  | @warming pool other akin _ _ later =>
    simp only [Job.resume, alike.clock]
    exact ofPool_beside setup (akin.rouse t.clock) later alike
  | after akin => exact ofLast_beside (Simulation.resume_beside akin alike setup)
  | sleep moment same => exact ⟨.finished same, alike⟩

end Job

/-! ### Runs at regular times -/

structure Periodic.Akin (p q : Periodic) : Prop where
  interval : p.interval = q.interval
  due : p.due = q.due
  ticket : p.ticket = q.ticket
  run : Option.Rel (Job.Akin (Agree WarmError.Akin WarmReport.Akin)) p.run q.run
  isHeld : p.isHeld = q.isHeld

namespace Periodic
variable {p q : Periodic}

theorem Akin.wake (akin : p.Akin q) : p.wake = q.wake := by
  obtain ⟨interval, due, ticket, run, isHeld⟩ := p
  obtain ⟨interval', due', ticket', run', isHeld'⟩ := q
  cases akin.run with
  | none => exact congrArg some akin.due
  | some same => exact same.wake

theorem Akin.waitTicket (akin : p.Akin q) : p.waitTicket = q.waitTicket := by
  obtain ⟨interval, due, ticket, run, isHeld⟩ := p
  obtain ⟨interval', due', ticket', run', isHeld'⟩ := q
  cases akin.run with
  | none => exact akin.ticket
  | some same => exact same.ticket

theorem rest_beside (akin : p.Akin q) (alike : s.Alike t) : Beside Akin (p.rest s) (q.rest t) :=
  ⟨⟨akin.interval, akin.due, alike.waits, .none, akin.isHeld⟩, alike.wait⟩

theorem settle_beside (akin : p.Akin q) {turn other : Turn (Except WarmError WarmReport) × State}
    (reached : Beside (Turn.Akin (Agree WarmError.Akin WarmReport.Akin)) turn other) :
    Beside Akin (p.settle turn) (q.settle other) := by
  obtain ⟨(_ | _) | job, alike⟩ := reached
  · exact rest_beside akin (alike.remark fun _ => rfl)
  · exact rest_beside akin alike
  · exact ⟨⟨akin.interval, akin.due, akin.ticket, .some job, akin.isHeld⟩, alike⟩

theorem step_beside (setup : Setup) (akin : p.Akin q) (alike : s.Alike t) :
    Beside Akin (p.step setup s) (q.step setup t) := by
  obtain ⟨interval, due, ticket, run, isHeld⟩ := p
  obtain ⟨interval', due', ticket', run', isHeld'⟩ := q
  obtain ⟨rfl, rfl, rfl, run, rfl⟩ := akin
  cases run with
  | none =>
    simp only [step, nextDue, alike.clock]
    exact settle_beside ⟨rfl, rfl, rfl, .none, rfl⟩ (Job.begin_beside setup setup.warmer.twin_warmAll alike)
  | some job =>
    refine settle_beside ?_ (Job.resume_beside setup job alike)
    exact ⟨rfl, rfl, rfl, .some job, rfl⟩

theorem isBefore_eq {p' q' : Periodic} (first : p.Akin q) (second : p'.Akin q') : p.isBefore p' = q.isBefore q' := by
  rw [isBefore, isBefore, first.wake, second.wake, first.waitTicket, second.waitTicket]

theorem akin_takeFirst {periodic others : List Periodic} (akin : List.Forall₂ Akin periodic others) :
    Option.Rel (fun a b => a.1.Akin b.1 ∧ List.Forall₂ Akin a.2 b.2) (takeFirst periodic) (takeFirst others) := by
  induction akin with
  | nil => exact .none
  | @cons p q periodic others first rest ih =>
    simp only [takeFirst]
    generalize takeFirst periodic = before at ih
    generalize takeFirst others = before' at ih
    cases ih with
    | none => exact .some ⟨first, .nil⟩
    | some same =>
      dsimp only
      rw [isBefore_eq same.1 first]
      split
      · exact .some ⟨same.1, .cons first same.2⟩
      · exact .some ⟨first, .cons same.1 same.2⟩

end Periodic

/-! ### Plans -/

theorem State.Alike.moveTo (alike : s.Alike t) (moment : Nat) : (s.moveTo moment).Alike (t.moveTo moment) :=
  { alike with clock := congrArg (max · moment) alike.clock }

/-- Answers, with the periodic runs and the states behind them. -/
structure Ends (good : α → α → Prop) (p q : Option α × List Periodic × State) : Prop where
  answers : Option.Rel good p.1 q.1
  periodic : List.Forall₂ Periodic.Akin p.2.1 q.2.1
  alike : p.2.2.Alike q.2.2

/-- Jobs under way come to the same. -/
theorem drive_ends (setup : Setup) (fuel : Nat) {periodic others : List Periodic}
    (runs : List.Forall₂ Periodic.Akin periodic others) {job other : Job α} (akin : job.Akin good other)
    (alike : s.Alike t) :
    Ends good (drive setup fuel periodic job s) (drive setup fuel others other t) := by
  induction fuel generalizing periodic others job other s t with
  | zero => exact ⟨.none, runs, alike⟩
  | succ fuel ih =>
    rw [drive, drive, akin.wake]
    cases other.wake with
    | none => exact ⟨.none, runs, alike⟩
    | some moment =>
      have turned := Job.resume_beside setup akin (alike.moveTo moment)
      dsimp only
      generalize job.resume setup (s.moveTo moment) = turn at turned
      generalize other.resume setup (t.moveTo moment) = turn' at turned
      obtain ⟨same | going, after⟩ := turned
      case' finished => have resumed : Ends good (some _, _, _) (some _, _, _) := ⟨.some same, runs, after⟩
      case' going => have resumed := ih runs going after
      -- Periodic runs that wait for the same moments come first in both, or in neither.
      all_goals
        have next := Periodic.akin_takeFirst runs
        generalize Periodic.takeFirst periodic = p at next
        generalize Periodic.takeFirst others = q at next
        cases next with
        | none => exact resumed
        | @some a b same =>
          obtain ⟨first, rest⟩ := a
          obtain ⟨first', rest'⟩ := b
          obtain ⟨same, left⟩ := same
          dsimp only at same left ⊢
          rw [same.wake]
          cases first'.wake with
          | none => exact resumed
          | some due =>
            dsimp only
            rw [alike.clock]
            split
            · refine (Periodic.step_beside setup same (alike.moveTo due)).elim ?_
              intro first first' s t same after
              exact ih (.cons same left) akin after
            · exact resumed

/-- Plans that are twins come to the same. -/
theorem carryOut_ends (setup : Setup) {periodic others : List Periodic}
    (runs : List.Forall₂ Periodic.Akin periodic others)
    {plan other : Plan α} (twin : plan.Twin (Stage.Akin good) other) (alike : s.Alike t) :
    Ends good (carryOut setup periodic plan s) (carryOut setup others other t) := by
  unfold carryOut
  refine (Job.begin_beside setup twin alike).elim ?_
  intro turn turn' s t same after
  cases same with
  | finished same => exact ⟨.some same, runs, after⟩
  | going akin => exact drive_ends setup patience runs akin after

end FeedFanout.Simulation
