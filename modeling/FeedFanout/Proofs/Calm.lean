import FeedFanout.Proofs.Warming
import FeedFanout.Simulation.Job

/-!
Calm. Where nothing goes wrong, a task that the simulation runs does at once what `Task.run` says (`Calm.advance`), and
a plan that it carries out ends as `Plan.Ends` has it (`Calm.carryOut`).
-/
namespace FeedFanout
namespace Simulation
variable {setup : Setup} {s : State}

/-- Nothing goes wrong: the collaborators are in memory, a push is one call, and no faults are to come. -/
structure Calm (setup : Setup) (s : State) : Prop where
  storage : setup.storage = .memory
  whole : setup.pushInTwo = false
  unhurt : s.faults = []

namespace Calm

/-- What is performed and told in calm leaves calm. -/
theorem still (calm : Calm setup s) (world : World) (told : Told) : Calm setup { s with world, told } :=
  ⟨calm.storage, calm.whole, calm.unhurt⟩

theorem foldl_remark (s : State) (remarks : List Remark) : ∃ told, remarks.foldl State.remark s = { s with told } := by
  induction remarks generalizing s with
  | nil => exact ⟨s.told, rfl⟩
  | cons r rest ih =>
    obtain ⟨told, same⟩ := ih (s.remark r)
    exact ⟨told, same⟩

theorem visit (calm : Calm setup s) (call : Call) :
    ∃ told, visit setup call s =
      (.replied (s.world.perform call).reply, { s with world := (s.world.perform call).world, told }) := by
  obtain ⟨world, faults, clock, waits, told⟩ := s
  obtain rfl : faults = [] := calm.unhurt
  obtain ⟨after, same⟩ := foldl_remark ⟨(world.perform call).world, [], clock, waits, told⟩ (world.perform call).remarks
  refine ⟨after, ?_⟩
  have own : State.ownReply? setup.storage call = none := by rw [calm.storage]; rfl
  cases site : site? setup.storage.hasPool call <;> simp [Simulation.visit, site, takeFault, State.perform, own, same]

theorem beginCall (calm : Calm setup s) (call : Call) (deadline : Option Nat) :
    ∃ told, beginCall setup call deadline s =
      (.replied (some (s.world.perform call).reply), { s with world := (s.world.perform call).world, told }) := by
  obtain ⟨told, seen⟩ := calm.visit call
  refine ⟨told, ?_⟩
  rw [Simulation.beginCall.eq_def, calm.whole]
  cases call <;> simp only [seen]

theorem advance {α : Type} (calm : Calm setup s) (t : Task α) :
    ∃ told, advance setup t s = (.finished (t.run s.world).1, { s with world := (t.run s.world).2, told }) := by
  induction t generalizing s with
  | done value => exact ⟨s.told, rfl⟩
  | tell notice next ih =>
    cases notice with
    | event e =>
      obtain ⟨last, ended⟩ := ih (calm.still s.world (s.notice setup (.event e)).told)
      exact ⟨last, ended⟩
    | remark r =>
      obtain ⟨last, ended⟩ := ih (calm.still s.world (s.notice setup (.remark r)).told)
      exact ⟨last, ended⟩
  | ask call next ih =>
    obtain ⟨told, begun⟩ := calm.beginCall call none
    obtain ⟨last, ended⟩ := ih (s.world.perform call).reply (calm.still (s.world.perform call).world told)
    exact ⟨last, by simp only [Simulation.advance, begun, ended, Task.run]⟩
  | askWithin limit call next ih =>
    obtain ⟨told, begun⟩ := calm.beginCall call (some (s.clock + limit.millis))
    obtain ⟨last, ended⟩ := ih (some (s.world.perform call).reply) (calm.still (s.world.perform call).world told)
    exact ⟨last, by simp only [Simulation.advance, begun, ended, Task.run]⟩

/-- The first of the rebuilds that are to go on is carried out, and the next in line is ready. -/
theorem settle_next (calm : Calm setup s) (fuel : Nat) (user : UserId) (ready later : List UserId)
    (finished : List Warmed) :
    ∃ told, Pool.settle setup (fuel + 1) ⟨later, (user :: ready).map (·, .start), [], finished⟩ s =
      Pool.settle setup fuel (Pool.startNext ⟨later, ready.map (·, .start), [], ⟨user, .ok ()⟩ :: finished⟩)
        { s with world := ((setup.warmer.warmUser user).run s.world).2, told } := by
  obtain ⟨told, advanced⟩ := calm.advance (setup.warmer.warmUser user)
  refine ⟨told, ?_⟩
  rw [List.map_cons, Pool.settle]
  simp only [Pool.run, advanced, Warmer.run_warmUser]

theorem settle (calm : Calm setup s) (ready later : List UserId) (finished : List Warmed)
    (busy : ready = [] → later = []) :
    ∃ told, Pool.settle setup (ready.length + later.length) ⟨later, ready.map (·, .start), [], finished⟩ s =
      (⟨[], [], [], ((ready ++ later).map fun user => ⟨user, .ok ()⟩).reverse ++ finished⟩,
        { s with world := setup.warmer.warmed (ready ++ later) s.world, told }) := by
  generalize length : ready.length + later.length = fuel
  induction fuel generalizing s ready later finished with
  | zero =>
    obtain ⟨rfl, rfl⟩ : ready = [] ∧ later = [] := by simpa using length
    exact ⟨s.told, rfl⟩
  | succ fuel ih =>
    cases ready with
    | nil => simp [busy rfl] at length
    | cons user rest =>
      obtain ⟨told, step⟩ := calm.settle_next fuel user rest later finished
      have still := calm.still ((setup.warmer.warmUser user).run s.world).2 told
      rw [step]
      cases later with
      | nil =>
        obtain ⟨last, settled⟩ := ih still rest [] (⟨user, .ok ()⟩ :: finished) (fun _ => rfl) (by simpa using length)
        exact ⟨last, by simpa [Pool.startNext, Warmer.warmed] using settled⟩
      | cons next later =>
        obtain ⟨last, settled⟩ := ih still (rest ++ [next]) later (⟨user, .ok ()⟩ :: finished) (by simp)
          (by simp at length ⊢; omega)
        exact ⟨last, by simpa [Pool.startNext, Warmer.warmed] using settled⟩

theorem make (calm : Calm setup s) (users : List UserId) :
    ∃ told, (Pool.make setup.warmer.concurrency users).settleAll setup s =
      (⟨[], [], [], (users.map fun user => ⟨user, .ok ()⟩).reverse⟩,
        { s with world := setup.warmer.warmed users s.world, told }) := by
  obtain ⟨told, settled⟩ := calm.settle (users.take (max 1 setup.warmer.concurrency))
    (users.drop (max 1 setup.warmer.concurrency)) [] (by
      intro none
      cases users with
      | nil => simp
      | cons user users => simp at none)
  rw [List.take_append_drop, List.append_nil] at settled
  exact ⟨told, by simpa [Pool.settleAll, Pool.make] using settled⟩

/-- Without faults the simulation carries out a plan as `Plan.Ends` has it. -/
theorem carryOut {α : Type} (calm : Calm setup s) (periodic : List Periodic) (plan : Plan α) :
    ∃ value w' told, carryOut setup periodic plan s = (some value, periodic, { s with world := w', told }) ∧
      Plan.Ends World.Serves setup.warmer plan s.world value w' := by
  obtain ⟨told, advanced⟩ := calm.advance plan
  cases ran : plan.run s.world with
  | mk stage w₁ =>
    rw [ran] at advanced
    cases stage with
    | answer value =>
      refine ⟨value, w₁, told, ?_, .answer (Task.ends_serves_iff.mpr ran)⟩
      rw [Simulation.carryOut, Job.begin, advanced]
      rfl
    | warmEach users finish =>
      obtain ⟨told, settled⟩ := (calm.still w₁ told).make users
      obtain ⟨told, finished⟩ := (calm.still (setup.warmer.warmed users w₁) told).advance
        (finish (users.map fun user => ⟨user, .ok ()⟩))
      refine ⟨_, _, told, ?_, setup.warmer.warmEach_in_turn ran⟩
      rw [Simulation.carryOut, Job.begin, advanced]
      simp only [Job.ofFirst, Job.ofPool, settled, Pool.isFinished, List.isEmpty_nil, Bool.and_self, if_true,
        List.reverse_reverse, finished, Job.ofLast]

end Calm
end Simulation
end FeedFanout
