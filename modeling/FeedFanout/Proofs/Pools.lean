import FeedFanout.Proofs.Calm
import FeedFanout.Proofs.Friendship
import FeedFanout.Proofs.WarmRuns

/-!
Pools. Where the rules for faults are never used up, and refuse calls or delay them (`Steady`), the pool in which the
simulation keeps rebuilds goes on as a crew does (`Steady.settle`). Whatever the simulation answers when it carries out
a run over all users is therefore the end of some run (`Steady.mayEnd`), and accounts for all users (`Steady.accounts`).
-/
namespace FeedFanout

namespace Task
variable {α : Type} {manner : Manner}

/-- Some steps of a task. -/
inductive Comes (manner : Manner) : Task α → World → Task α → World → Prop
  | stay (t : Task α) (w : World) : Comes manner t w t w
  | on {t t₁ t₂ : Task α} {w w₁ w₂ : World} (moves : t.Moves manner w t₁ w₁) (later : Comes manner t₁ w₁ t₂ w₂) :
      Comes manner t w t₂ w₂

end Task

namespace Crew
variable {manner : Manner} {wm : Warmer}

/-- The steps of a rebuild are steps of its crew. -/
theorem comes {later : List UserId} (before after : List (UserId × Task (Except WarmError Unit))) {user : UserId}
    {t t' : Task (Except WarmError Unit)} {finished : List Warmed} {w w' : World} (comes : t.Comes manner w t' w') :
    Relation.ReflTransGen (Step manner wm) ⟨later, before ++ (user, t) :: after, finished, w⟩
      ⟨later, before ++ (user, t') :: after, finished, w'⟩ := by
  induction comes with
  | stay t w => exact .refl
  | on moves rest ih => exact .head (.move before after moves) ih

/-- As many are begun as there is room for. -/
theorem begins (first later : List UserId) {busy : List (UserId × Task (Except WarmError Unit))}
    {finished : List Warmed} {w : World} (room : busy.length + first.length ≤ max 1 wm.concurrency) :
    Relation.ReflTransGen (Step manner wm) ⟨first ++ later, busy, finished, w⟩
      ⟨later, busy ++ first.map fun user => (user, wm.warmUser user), finished, w⟩ := by
  induction first generalizing busy with
  | nil => simpa using Relation.ReflTransGen.refl
  | cons user first ih =>
    rw [List.length_cons] at room
    have fewer : (busy ++ [(user, wm.warmUser user)]).length + first.length ≤ max 1 wm.concurrency := by
      rw [List.length_append, List.length_singleton]
      omega
    have rest := ih fewer
    rw [List.append_assoc] at rest
    exact .head (.begin (by omega)) rest

end Crew

theorem Plan.remarks_last {α : Type} {manner : Manner} {wm : Warmer} {t : Task α} {value : α} {w : World}
    (remarks : t.Remarks value) : Relation.ReflTransGen (Step manner wm) (.last t w) (.last (.done value) w) := by
  induction remarks with
  | done value => exact .refl
  | remark r later ih => exact .head (.last (.tell ..)) ih

namespace Simulation

/-- A rule that is never used up, and leaves no call without a reply. -/
structure Fault.Lasting (fault : Fault) : Prop where
  always : fault.times = none
  mild : (∃ trouble, fault.act = .error trouble) ∨ ∃ millis, fault.act = .delay millis

/-- The trouble that rules make for a call, if there is no pool of connections. -/
def refusal? (faults : List Fault) (call : Call) : Option Trouble :=
  match site? false call with
  | none => none
  | some (site, user) =>
    match (takeFault site user faults).1 with
    | some (.error trouble) => some trouble
    | _ => none

/-- The rules do not make a call fail. -/
def Spares (faults : List Fault) (call : Call) : Prop :=
  ∀ trouble, refusal? faults call = some trouble → trouble.reply? call = none

/-- The collaborators are in memory, and the rules stay the same. -/
structure Steady (setup : Setup) (faults : List Fault) (s : State) : Prop where
  storage : setup.storage = .memory
  rules : s.faults = faults
  lasting : ∀ fault ∈ faults, fault.Lasting

theorem takeFault_lasting {faults : List Fault} (lasting : ∀ fault ∈ faults, fault.Lasting) (site : Site)
    (user : UserId) :
    takeFault site user faults = (none, faults) ∨
      ∃ fault ∈ faults, fault.site = site ∧ takeFault site user faults = (some fault.act, faults) := by
  induction faults with
  | nil => exact .inl rfl
  | cons fault faults ih =>
    have always := (lasting fault List.mem_cons_self).always
    unfold takeFault
    by_cases hit : fault.hits site user = true
    · refine .inr ⟨fault, List.mem_cons_self, ?_, ?_⟩
      · simp only [Fault.hits, Bool.and_eq_true, decide_eq_true_eq] at hit
        exact hit.1.1
      · rw [if_pos hit, always, Option.map_none, ← always]
    · rw [if_neg hit]
      obtain free | ⟨other, member, same, taken⟩ := ih (List.forall_mem_cons.mp lasting).2
      · exact .inl (by rw [free])
      · exact .inr ⟨other, List.mem_cons_of_mem _ member, same, by rw [taken]⟩

namespace Steady
variable {setup : Setup} {faults : List Fault} {s : State}

theorem congr (steady : Steady setup faults s) {s' : State} (same : s'.faults = s.faults) : Steady setup faults s' :=
  ⟨steady.storage, same.trans steady.rules, steady.lasting⟩

theorem perform (steady : Steady setup faults s) (call : Call) :
    ∃ s', s.perform setup call = ((s.world.perform call).reply, s') ∧ s'.world = (s.world.perform call).world ∧
      Steady setup faults s' := by
  obtain ⟨told, same⟩ :=
    Calm.foldl_remark { s with world := (s.world.perform call).world } (s.world.perform call).remarks
  have own : State.ownReply? setup.storage call = none := by rw [steady.storage]; rfl
  refine ⟨{ s with world := (s.world.perform call).world, told }, ?_, rfl, steady.congr rfl⟩
  simp only [State.perform, own, same]

theorem served (steady : Steady setup faults s) {call : Call} (spares : Spares faults call) :
    ∃ reply s', s.perform setup call = (reply, s') ∧ Steady setup faults s' ∧
      s.world.meet call (fateOf (refusal? faults) call) = (some reply, s'.world) := by
  obtain ⟨s', performed, world, still⟩ := steady.perform call
  refine ⟨_, s', performed, still, ?_⟩
  unfold fateOf
  cases refused : refusal? faults call with
  | none => rw [world]; rfl
  | some trouble => simp only [World.meet, spares trouble refused, world]

/-- A call is replied to as is its fate, unless it is delayed and to be performed later. -/
theorem visit (steady : Steady setup faults s) (call : Call) :
    (∃ due, visit setup call s = (.delayed due, s) ∧ Spares faults call) ∨
      ∃ reply s', visit setup call s = (.replied reply, s') ∧ Steady setup faults s' ∧
        s.world.meet call (fateOf (refusal? faults) call) = (some reply, s'.world) := by
  have unchanged : { s with faults } = s := by rw [← steady.rules]
  have performed (spares : Spares faults call) (same : Simulation.visit setup call s =
      (.replied (s.perform setup call).1, (s.perform setup call).2)) :
      ∃ reply s', Simulation.visit setup call s = (.replied reply, s') ∧ Steady setup faults s' ∧
        s.world.meet call (fateOf (refusal? faults) call) = (some reply, s'.world) := by
    obtain ⟨reply, s', done, still, met⟩ := steady.served spares
    rw [done] at same
    exact ⟨reply, s', same, still, met⟩
  have noPool : setup.storage.hasPool = false := by rw [steady.storage]; rfl
  cases site : site? false call with
  | none =>
    refine .inr (performed ?_ ?_)
    · simp [Spares, refusal?, site]
    · simp only [Simulation.visit, noPool, site, steady.rules, unchanged]
  | some place =>
    obtain free | ⟨fault, member, -, taken⟩ := takeFault_lasting steady.lasting place.1 place.2
    · refine .inr (performed ?_ ?_)
      · simp [Spares, refusal?, site, free]
      · simp only [Simulation.visit, noPool, site, steady.rules, unchanged, free]
    obtain ⟨trouble, act⟩ | ⟨millis, act⟩ := (steady.lasting fault member).mild
    · have refused : refusal? faults call = some trouble := by simp only [refusal?, site, taken, act]
      cases fits : trouble.reply? call with
      | some reply =>
        refine .inr ⟨reply, s, ?_, steady, ?_⟩
        · simp only [Simulation.visit, noPool, site, steady.rules, unchanged, taken, act, fits]
        · simp only [fateOf, refused, World.meet, fits]
      | none =>
        refine .inr (performed ?_ ?_)
        · simp [Spares, refused, fits]
        · simp only [Simulation.visit, noPool, site, steady.rules, unchanged, taken, act, fits]
    · have spares : Spares faults call := by simp [Spares, refusal?, site, taken, act]
      by_cases now : millis = 0
      · refine .inr (performed spares ?_)
        simp only [Simulation.visit, noPool, site, steady.rules, unchanged, taken, act, if_pos now]
      · refine .inl ⟨s.clock + millis, ?_, spares⟩
        simp only [Simulation.visit, noPool, site, steady.rules, unchanged, taken, act, if_neg now]

/-- A call without a limit is replied to, or it waits to be performed. -/
theorem beginCall (steady : Steady setup faults s) {call : Call} (makes : Warmer.Makes call) :
    (∃ due, beginCall setup call none s = (.waits (some due) (.perform .whole), s) ∧ Spares faults call) ∨
      ∃ reply s', beginCall setup call none s = (.replied (some reply), s') ∧ Steady setup faults s' ∧
        s.world.meet call (fateOf (refusal? faults) call) = (some reply, s'.world) := by
  obtain ⟨due, seen, spares⟩ | ⟨reply, s', seen, still, met⟩ := steady.visit call
  · refine .inl ⟨due, ?_, spares⟩
    cases call with
    | push => cases makes
    | _ => simp only [Simulation.beginCall, seen, pause]
  · refine .inr ⟨reply, s', ?_, still, met⟩
    cases call with
    | push => cases makes
    | _ => simp only [Simulation.beginCall, seen]

end Steady

/-! ### Rebuilds -/

variable {setup : Setup} {faults : List Fault} {s : State} {α : Type}

/-- What a task has still to do that waits for a call. -/
def Waiting.rest (wait : Waiting α) : Task α := .ask wait.call fun reply => wait.next (some reply)

/-- A task waits for a call that was delayed. -/
structure Waiting.Delayed (faults : List Fault) (wait : Waiting α) : Prop where
  hold : wait.hold = .perform .whole
  spares : Spares faults wait.call
  patient : wait.rest.Patient Warmer.Makes

/-- How far a task has come when it is done or waits. -/
def Progress.At (faults : List Fault) (t : Task α) : Progress α → Prop
  | .finished value => t = .done value
  | .waiting wait => wait.Delayed faults ∧ t = wait.rest

/-- The directory lists these users, and other calls meet what the rules have for them. -/
abbrev ruled (users : List UserId) (faults : List Fault) : Manner := World.Under users (fateOf (refusal? faults))

theorem ruled_met {users : List UserId} {w w' : World} {call : Call} {reply : call.Reply} (makes : Warmer.Makes call)
    (met : w.meet call (fateOf (refusal? faults) call) = (some reply, w')) :
    ruled users faults w ⟨call, some reply⟩ w' := by
  refine .met ?_ met
  rintro rfl
  cases makes

namespace Steady
variable (users : List UserId)

theorem advance (steady : Steady setup faults s) {t : Task α} (patient : t.Patient Warmer.Makes) :
    ∃ t', t.Comes (ruled users faults) s.world t' (advance setup t s).2.world ∧ (advance setup t s).1.At faults t' ∧
      Steady setup faults (advance setup t s).2 := by
  induction t generalizing s with
  | done value => exact ⟨_, .stay .., rfl, steady⟩
  | tell notice next ih =>
    have same : (s.notice setup notice).world = s.world ∧ (s.notice setup notice).faults = s.faults := by
      cases notice <;> exact ⟨rfl, rfl⟩
    obtain ⟨t', comes, here, still⟩ := ih (steady.congr same.2) patient
    rw [same.1] at comes
    exact ⟨t', .on (.tell ..) comes, here, still⟩
  | ask call next ih =>
    obtain ⟨makes, later⟩ := patient
    unfold Simulation.advance
    obtain ⟨due, begun, spares⟩ | ⟨reply, s', begun, still, met⟩ := steady.beginCall makes
    · rw [begun]
      exact ⟨_, .stay .., ⟨⟨rfl, spares, ⟨makes, later⟩⟩, rfl⟩, steady.congr rfl⟩
    · rw [begun]
      obtain ⟨t', comes, here, last⟩ := ih reply still (later reply)
      exact ⟨t', .on (.ask (ruled_met makes met)) comes, here, last⟩
  | askWithin => cases patient

theorem resume (steady : Steady setup faults s) {wait : Waiting α} (delayed : wait.Delayed faults) :
    ∃ t', wait.rest.Comes (ruled users faults) s.world t' (wait.resume setup s).2.world ∧
      (wait.resume setup s).1.At faults t' ∧ Steady setup faults (wait.resume setup s).2 := by
  obtain ⟨reply, s', performed, still, met⟩ := steady.served delayed.spares
  obtain ⟨call, deadline, wake, hold, ticket, next⟩ := wait
  obtain ⟨rfl, -, makes, later⟩ := delayed
  have resumed : resumeCall setup call .whole deadline s = (.replied (some reply), s') := by
    cases call <;> simp only [resumeCall, performed]
  obtain ⟨t', comes, here, last⟩ := still.advance users (later reply)
  simp only [Waiting.resume, resumed]
  exact ⟨t', .on (.ask (ruled_met makes met)) comes, here, last⟩

end Steady

/-! ### Pools -/

/-- A rebuild that can go on, as a task. -/
def Ready.task (wm : Warmer) (user : UserId) : Ready → Task (Except WarmError Unit)
  | .start => wm.warmUser user
  | .resume wait => wait.rest

def Ready.Fit (faults : List Fault) : Ready → Prop
  | .start => True
  | .resume wait => wait.Delayed faults

theorem Steady.run (steady : Steady setup faults s) (users : List UserId) (user : UserId) {ready : Ready}
    (fit : ready.Fit faults) :
    ∃ t', (ready.task setup.warmer user).Comes (ruled users faults) s.world t' (Pool.run setup user ready s).2.world ∧
      (Pool.run setup user ready s).1.At faults t' ∧ Steady setup faults (Pool.run setup user ready s).2 := by
  cases ready with
  | start => exact steady.advance users ((setup.warmer.patient_warmUser user).mono fun _ => Warmer.makes_of_mends)
  | resume wait => exact steady.resume users fit

namespace Pool
variable {wm : Warmer} {p : Pool} {w : World} {busy : List (UserId × Task (Except WarmError Unit))}

/-- The rebuilds under way. -/
def tasks (wm : Warmer) (p : Pool) : List (UserId × Task (Except WarmError Unit)) :=
  p.ready.map (fun one => (one.1, one.2.task wm one.1)) ++ p.waiting.map fun one => (one.1, one.2.rest)

/-- The crew of a pool, with the rebuilds under way in some order. -/
def crew (p : Pool) (busy : List (UserId × Task (Except WarmError Unit))) (w : World) : Crew :=
  ⟨p.later, busy, p.finished.reverse, w⟩

/-- A pool keeps these rebuilds. -/
structure Keeps (wm : Warmer) (faults : List Fault) (p : Pool) (busy : List (UserId × Task (Except WarmError Unit))) :
    Prop where
  same : busy.Perm (p.tasks wm)
  ready : ∀ one ∈ p.ready, one.2.Fit faults
  waiting : ∀ one ∈ p.waiting, one.2.Delayed faults
  room : p.ready.length + p.waiting.length ≤ max 1 wm.concurrency

/-- A pool is made by beginning as many rebuilds as there is room for. -/
theorem keeps_make (wm : Warmer) (faults : List Fault) (manner : Manner) (users : List UserId) (w : World) :
    ∃ busy, Relation.ReflTransGen (Crew.Step manner wm) ⟨users, [], [], w⟩ ((make wm.concurrency users).crew busy w) ∧
      (make wm.concurrency users).Keeps wm faults busy := by
  have fits : (users.take (max 1 wm.concurrency)).length ≤ max 1 wm.concurrency := List.length_take_le ..
  have begun : Relation.ReflTransGen (Crew.Step manner wm)
      ⟨users.take (max 1 wm.concurrency) ++ users.drop (max 1 wm.concurrency), [], [], w⟩ _ :=
    Crew.begins _ _ (by simpa only [List.length_nil, Nat.zero_add] using fits)
  rw [List.take_append_drop] at begun
  refine ⟨_, begun, ?_, ?_, List.forall_mem_nil _, ?_⟩
  · simp [tasks, make, Ready.task, Function.comp_def]
  · intro one member
    obtain ⟨user, -, rfl⟩ := List.mem_map.mp member
    trivial
  · simpa only [make, List.length_map, List.length_nil, Nat.add_zero] using fits

theorem Keeps.rouse (keeps : p.Keeps wm faults busy) (now : Nat) : (p.rouse now).Keeps wm faults busy := by
  obtain ⟨expired, kept, ready⟩ := p.rouse_ready now
  have waited : ∀ one ∈ expired ++ (p.rouse now).waiting, one.2.Delayed faults :=
    fun one member => keeps.waiting one (kept.mem_iff.mp member)
  refine ⟨?_, ?_, ?_, ?_⟩
  · refine keeps.same.trans ?_
    rw [tasks, tasks, ready, List.map_append, List.append_assoc]
    refine .append_left _ ?_
    have same := (kept.map fun one : UserId × Waiting (Except WarmError Unit) => (one.1, one.2.rest)).symm
    rw [List.map_append] at same
    simpa [Function.comp_def, Ready.task] using same
  · rw [ready]
    intro one member
    obtain member | member := List.mem_append.mp member
    · exact keeps.ready one member
    · obtain ⟨other, inside, rfl⟩ := List.mem_map.mp member
      exact waited other (List.mem_append_left _ inside)
  · exact fun one member => waited one (List.mem_append_right _ member)
  · have length := kept.length_eq
    rw [List.length_append] at length
    rw [ready, List.length_append, List.length_map]
    have room := keeps.room
    omega

/-- The first of the rebuilds that can go on does so. -/
theorem Keeps.first {manner : Manner} {later : List UserId} {user : UserId} {ready : Ready}
    {rest : List (UserId × Ready)} {waiting : List (UserId × Waiting (Except WarmError Unit))} {finished : List Warmed}
    (keeps : Keeps wm faults ⟨later, (user, ready) :: rest, waiting, finished⟩ busy)
    {t' : Task (Except WarmError Unit)} {w' : World} (comes : (ready.task wm user).Comes manner w t' w') :
    ∃ before after, (before ++ after).Perm (tasks wm ⟨later, rest, waiting, finished⟩) ∧
      Relation.ReflTransGen (Crew.Step manner wm) ⟨later, busy, finished.reverse, w⟩
        ⟨later, before ++ (user, t') :: after, finished.reverse, w'⟩ := by
  obtain ⟨before, after, rfl⟩ := List.append_of_mem (keeps.same.mem_iff.mpr List.mem_cons_self)
  exact ⟨before, after, (List.perm_middle.symm.trans keeps.same).cons_inv, Crew.comes before after comes⟩

/-- The next user is begun, if there is one. -/
theorem Keeps.startNext (keeps : p.Keeps wm faults busy)
    (room : p.ready.length + p.waiting.length < max 1 wm.concurrency) (manner : Manner) (w : World) :
    ∃ busy', Relation.ReflTransGen (Crew.Step manner wm) (p.crew busy w) (p.startNext.crew busy' w) ∧
      p.startNext.Keeps wm faults busy' := by
  obtain ⟨later, ready, waiting, finished⟩ := p
  cases later with
  | nil => exact ⟨busy, .refl, keeps⟩
  | cons user later =>
    have length := keeps.same.length_eq
    simp only [tasks, List.length_append, List.length_map] at length
    dsimp only at room
    refine ⟨_, .single (.begin (by rw [length]; exact room)), ?_, ?_, keeps.waiting, ?_⟩
    · refine (keeps.same.append_right _).trans ?_
      simp only [tasks, Pool.startNext, List.map_append, List.append_assoc]
      exact .append_left _ List.perm_append_comm
    · exact List.forall_mem_append.mpr ⟨keeps.ready, List.forall_mem_singleton.mpr trivial⟩
    · simp only [Pool.startNext, List.length_append, List.length_singleton]
      omega

end Pool

namespace Steady
variable {p : Pool} {busy : List (UserId × Task (Except WarmError Unit))}

theorem settle (steady : Steady setup faults s) (users : List UserId) (fuel : Nat)
    (keeps : p.Keeps setup.warmer faults busy) :
    ∃ busy', Relation.ReflTransGen (Crew.Step (ruled users faults) setup.warmer) (p.crew busy s.world)
        ((p.settle setup fuel s).1.crew busy' (p.settle setup fuel s).2.world) ∧
      (p.settle setup fuel s).1.Keeps setup.warmer faults busy' ∧ Steady setup faults (p.settle setup fuel s).2 := by
  induction fuel generalizing p s busy with
  | zero => exact ⟨busy, .refl, keeps, steady⟩
  | succ fuel ih =>
    obtain ⟨later, _ | ⟨⟨user, ready⟩, rest⟩, waiting, finished⟩ := p
    · exact ⟨busy, .refl, keeps, steady⟩
    · obtain ⟨t', comes, here, still⟩ := steady.run users user (keeps.ready _ List.mem_cons_self)
      obtain ⟨before, after, others, gone⟩ := keeps.first comes
      have fit := (List.forall_mem_cons.mp keeps.ready).2
      have room := keeps.room
      simp only [List.length_cons] at room
      unfold Pool.settle
      dsimp only
      generalize Pool.run setup user ready s = ran at *
      obtain ⟨result | wait, s'⟩ := ran
      · obtain rfl : t' = .done result := here
        have kept : Pool.Keeps setup.warmer faults ⟨later, rest, waiting, ⟨user, result⟩ :: finished⟩
            (before ++ after) :=
          ⟨others, fit, keeps.waiting, by dsimp only; omega⟩
        obtain ⟨busy₁, begun, kept⟩ := kept.startNext (by dsimp only; omega) (ruled users faults) s'.world
        obtain ⟨busy₂, later, last⟩ := ih still kept
        refine ⟨busy₂, (gone.tail (.finish before after)).trans (.trans ?_ later), last⟩
        simpa only [Pool.crew, List.reverse_cons] using begun
      · obtain ⟨delayed, rfl⟩ := here
        have kept : Pool.Keeps setup.warmer faults ⟨later, rest, waiting ++ [(user, wait)], finished⟩
            (before ++ (user, wait.rest) :: after) := by
          refine ⟨?_, fit, List.forall_mem_append.mpr ⟨keeps.waiting, List.forall_mem_singleton.mpr delayed⟩, ?_⟩
          · refine List.perm_middle.trans ((others.cons _).trans ?_)
            simp only [Pool.tasks, List.map_append, ← List.append_assoc]
            exact (List.perm_append_singleton _ _).symm
          · rw [List.length_append, List.length_singleton]
            dsimp only
            omega
        obtain ⟨busy', later, last⟩ := ih still kept
        exact ⟨busy', gone.trans later, last⟩

end Steady

/-! ### Runs -/

theorem advance_remarks {t : Task α} {value : α} (remarks : t.Remarks value) (setup : Setup) (s : State) :
    ∃ s', advance setup t s = (.finished value, s') ∧ s'.world = s.world := by
  induction remarks generalizing s with
  | done value => exact ⟨s, rfl, rfl⟩
  | remark r later ih => exact ih (s.remark r)

namespace Steady
variable {p : Pool} {busy : List (UserId × Task (Except WarmError Unit))}

/-- A pool goes on until all that is left of it waits, or else its rebuilds are summed up. -/
theorem ofPool (steady : Steady setup faults s) (users : List UserId) (keeps : p.Keeps setup.warmer faults busy) :
    (∃ answer s', Job.ofPool setup p Warmer.finish s = (.finished answer, s') ∧
      Relation.ReflTransGen (Plan.Step (ruled users faults) setup.warmer)
        (.middle (p.crew busy s.world) Warmer.finish) (.last (.done answer) s'.world)) ∨
    ∃ p' busy' s', Job.ofPool setup p Warmer.finish s = (.going (.warming p' Warmer.finish), s') ∧
      Relation.ReflTransGen (Plan.Step (ruled users faults) setup.warmer)
        (.middle (p.crew busy s.world) Warmer.finish) (.middle (p'.crew busy' s'.world) Warmer.finish) ∧
      p'.Keeps setup.warmer faults busy' ∧ Steady setup faults s' := by
  obtain ⟨busy', goes, kept, still⟩ := steady.settle users (p.ready.length + p.later.length) keeps
  unfold Job.ofPool Pool.settleAll
  generalize p.settle setup (p.ready.length + p.later.length) s = settled at *
  obtain ⟨⟨later, ready, waiting, finished⟩, s'⟩ := settled
  have goes := goes.lift (Plan.Point.middle · Warmer.finish) fun _ _ step => Plan.Step.crew step
  dsimp only
  split
  next ended =>
    obtain ⟨⟨rfl, rfl⟩, rfl⟩ : (later = [] ∧ ready = []) ∧ waiting = [] := by simpa [Pool.isFinished] using ended
    obtain rfl : busy' = [] := kept.same.eq_nil
    obtain ⟨last, advanced, world⟩ := advance_remarks (Warmer.remarks_finish finished.reverse) setup s'
    refine .inl ⟨_, last, by rw [advanced]; rfl, (goes.tail .finish).trans ?_⟩
    rw [world]
    exact Plan.remarks_last (Warmer.remarks_finish finished.reverse)
  next => exact .inr ⟨_, busy', s', rfl, goes, kept, still⟩

theorem drive (steady : Steady setup faults s) (users : List UserId) {fuel : Nat}
    (keeps : p.Keeps setup.warmer faults busy) {answer : Except WarmError WarmReport} {periodic : List Periodic}
    {s' : State} (ran : drive setup fuel [] (.warming p Warmer.finish) s = (some answer, periodic, s')) :
    Relation.ReflTransGen (Plan.Step (ruled users faults) setup.warmer)
      (.middle (p.crew busy s.world) Warmer.finish) (.last (.done answer) s'.world) := by
  induction fuel generalizing p busy s with
  | zero => cases ran
  | succ fuel ih =>
    unfold Simulation.drive at ran
    cases due : Job.wake (.warming p Warmer.finish) with
    | none =>
      rw [due] at ran
      cases ran
    | some moment =>
      rw [due] at ran
      dsimp only [Periodic.takeFirst, Job.resume] at ran
      have waked : Steady setup faults (s.moveTo moment) := steady.congr rfl
      obtain ⟨value, last, turned, goes⟩ | ⟨p', busy', s₁, turned, goes, kept, still⟩ :=
        waked.ofPool users (keeps.rouse (s.moveTo moment).clock)
      · rw [turned] at ran
        cases ran
        exact goes
      · rw [turned] at ran
        exact goes.trans (ih still kept ran)

/-- The directory is asked, and the users that it lists are to be gone through. -/
theorem advance_warmAll (steady : Steady setup faults s) (listed : ∀ fault ∈ faults, fault.site ≠ .users) :
    ∃ s', Simulation.advance setup setup.warmer.warmAll s =
        (.finished (.warmEach s.world.graph.users Warmer.finish), s') ∧
      s'.world = s.world ∧ Steady setup faults s' := by
  have told : Steady setup faults (s.remark .warmStarted) := steady.congr rfl
  obtain ⟨s', performed, world, still⟩ := told.perform .users
  refine ⟨s', ?_, world, still⟩
  have unchanged : { s.remark .warmStarted with faults } = s.remark .warmStarted := by rw [← told.rules]
  have free : takeFault .users default faults = (none, faults) := by
    obtain free | ⟨fault, member, same, -⟩ := takeFault_lasting steady.lasting .users default
    · exact free
    · exact absurd same (listed fault member)
  have seen : Simulation.visit setup .users (s.remark .warmStarted) = (.replied (.ok s.world.graph.users), s') := by
    simp only [Simulation.visit, site?, told.rules, free, unchanged, performed]
    rfl
  change Simulation.advance setup (.ask .users _) (s.remark .warmStarted) = _
  simp only [Simulation.advance, Simulation.beginCall, seen]
  rfl

/-- What the simulation answers, when it carries out a run over all users, is what some run ends with. -/
theorem mayEnd (steady : Steady setup faults s) (listed : ∀ fault ∈ faults, fault.site ≠ .users)
    {answer : Except WarmError WarmReport} {periodic : List Periodic} {s' : State}
    (ran : carryOut setup [] setup.warmer.warmAll s = (some answer, periodic, s')) :
    setup.warmer.MayEnd (refusal? faults) s.world.graph.users s.world answer s'.world := by
  obtain ⟨s₁, advanced, world, still⟩ := steady.advance_warmAll listed
  obtain ⟨busy, begun, kept⟩ := Pool.keeps_make setup.warmer faults (ruled s.world.graph.users faults)
    s.world.graph.users s.world
  have first : Relation.ReflTransGen (Plan.Step (ruled s.world.graph.users faults) setup.warmer)
      (.first setup.warmer.warmAll s.world) (.middle ⟨s.world.graph.users, [], [], s.world⟩ Warmer.finish) :=
    .head (.first (.tell ..)) (.head (.first (.ask (.listed _))) (.single .warmEach))
  have goes := first.trans (begun.lift (Plan.Point.middle · Warmer.finish) fun _ _ step => Plan.Step.crew step)
  rw [← world] at goes
  unfold carryOut Job.begin at ran
  rw [advanced] at ran
  dsimp only [Job.ofFirst] at ran
  obtain ⟨value, last, turned, rest⟩ | ⟨p', busy', s₂, turned, rest, later, last⟩ :=
    still.ofPool s.world.graph.users kept
  · rw [turned] at ran
    cases ran
    rw [world] at goes rest
    exact goes.trans rest
  · rw [turned] at ran
    have ended := last.drive s.world.graph.users later ran
    rw [world] at goes rest
    exact goes.trans (rest.trans ended)

theorem accounts (steady : Steady setup faults s) (listed : ∀ fault ∈ faults, fault.site ≠ .users)
    (small : setup.warmer.capacity ≤ Window.largest) {answer : Except WarmError WarmReport} {periodic : List Periodic}
    {s' : State} (ran : carryOut setup [] setup.warmer.warmAll s = (some answer, periodic, s')) :
    ∃ report, answer = .ok report ∧
      setup.warmer.Accounts (refusal? faults) s.world.graph.users s.world report s'.world :=
  (steady.mayEnd listed ran).accounts (IdSet.nodup_toList _) small

end Steady
end Simulation
end FeedFanout
