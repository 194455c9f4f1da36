import FeedFanout.Simulation.Job

/-!
Plans with sequels. A sequel that only writes to the log waits for nothing: whatever warm runs go on beside it, a plan
with such a sequel takes the course of the plan alone, and the log is written to when it is over (`carryOut_andThen`).
-/
namespace FeedFanout

/-- A task that writes to the log and answers. -/
def Task.noting {α : Type} (remarks : List Remark) (value : α) : Task α :=
  remarks.foldr (fun r next => .tell (.remark r) next) (.done value)

/-- What a plan with a sequel does behind a stage. -/
def Stage.andThen {α β : Type} (f : α → Task β) : Stage α → Plan β
  | .answer value => .ofTask (f value)
  | .warmEach users finish => .done (.warmEach users fun results => (finish results).bind f)

namespace Plan
variable {α β γ : Type}

theorem andThen_eq (plan : Plan α) (f : α → Task β) : plan.andThen f = Task.bind plan (Stage.andThen f) := rfl

theorem ofTask_bind (t : Task α) (f : α → Task β) : ofTask (t.bind f) = (ofTask t).andThen f := by
  rw [andThen_eq, ofTask, ofTask, Task.bind_assoc, Task.bind_assoc]
  rfl

theorem andThen_andThen (plan : Plan α) (f : α → Task β) (g : β → Task γ) :
    (plan.andThen f).andThen g = plan.andThen fun value => (f value).bind g := by
  refine (Task.bind_assoc plan _ _).trans (congrArg (Task.bind plan) ?_)
  funext stage
  cases stage with
  | answer value => exact (ofTask_bind (f value) g).symm
  | warmEach users finish =>
    refine congrArg (fun finish => Task.done (Stage.warmEach users finish)) ?_
    funext results
    exact Task.bind_assoc (finish results) f g

end Plan

namespace Simulation
variable {α β : Type}

/-- Some remarks, written to the log one after the other. -/
def State.note (s : State) (remarks : List Remark) : State := remarks.foldl State.remark s

theorem advance_noting (setup : Setup) (remarks : List Remark) (value : α) (s : State) :
    advance setup (.noting remarks value) s = (.finished value, s.note remarks) := by
  induction remarks generalizing s with
  | nil => rfl
  | cons r remarks ih => exact ih (s.remark r)

/-! ### Tasks -/

/-- A wait before a task that something follows. -/
def Waiting.bind (wait : Waiting α) (f : α → Task β) : Waiting β :=
  { wait with next := fun reply => (wait.next reply).bind f }

/-- A wait until a moment. -/
def Waiting.until (moment : Nat) (next : Task α) : Waiting α := ⟨.mint, none, some moment, .expire, 0, fun _ => next⟩

/-- Where a task stands that something follows. -/
def Progress.bind (setup : Setup) (f : α → Task β) : Progress α × State → Progress β × State
  | (.finished value, s) => advance setup (f value) s
  | (.waiting wait, s) => (.waiting (wait.bind f), s)

theorem advance_bind (setup : Setup) (t : Task α) (f : α → Task β) (s : State) :
    advance setup (t.bind f) s = Progress.bind setup f (advance setup t s) := by
  induction t generalizing s with
  | done value => rfl
  | tell notice next ih => exact ih (s.notice setup notice)
  | ask call next ih =>
    simp only [Task.bind, advance]
    split
    · exact ih _ _
    · rfl
    · unfold Progress.bind Waiting.bind
      congr
      funext reply
      cases reply <;> rfl
  | askWithin limit call next ih =>
    simp only [Task.bind, advance]
    split
    · exact ih _ _
    · rfl

theorem resume_bind (setup : Setup) (wait : Waiting α) (f : α → Task β) (s : State) :
    (wait.bind f).resume setup s = Progress.bind setup f (wait.resume setup s) := by
  obtain ⟨call, deadline, wake, hold, ticket, next⟩ := wait
  cases hold with
  | expire => exact advance_bind setup (next none) f s
  | forever => rfl
  | perform part =>
    simp only [Waiting.resume, Waiting.bind]
    split
    · exact advance_bind setup _ f _
    · rfl

/-! ### Jobs -/

section
variable (setup : Setup) (log : α → List Remark) (g : α → β)

/-- A job that something follows. -/
def Job.andThen (f : α → Task β) : Job α → Job β
  | before wait => .before (wait.bind (Stage.andThen f))
  | warming pool finish => .warming pool fun results => (finish results).bind f
  | after wait => .after (wait.bind f)
  | sleep wake value => .after (.until wake (f value))

theorem Job.wake_andThen (f : α → Task β) (job : Job α) : (job.andThen f).wake = job.wake := by cases job <;> rfl

/-- Where a job stands that is followed by what goes to the log. -/
def Turn.noting : Turn α × State → Turn β × State
  | (.finished value, s) => (.finished (g value), s.note (log value))
  | (.going job, s) => (.going (job.andThen fun value => .noting (log value) (g value)), s)

namespace Job

theorem ofLast_bind (p : Progress α × State) :
    ofLast (Progress.bind setup (fun value => .noting (log value) (g value)) p) = Turn.noting log g (ofLast p) := by
  obtain ⟨value | wait, s⟩ := p
  · simp only [Progress.bind, advance_noting]
    rfl
  · rfl

theorem ofPool_andThen (pool : Pool) (finish : List Warmed → Task α) (s : State) :
    ofPool setup pool (fun results => (finish results).bind fun value => .noting (log value) (g value)) s =
      Turn.noting log g (ofPool setup pool finish s) := by
  unfold ofPool
  dsimp only
  split
  · rw [advance_bind, ofLast_bind]
  · rfl

theorem ofFirst_bind (p : Progress (Stage α) × State) :
    ofFirst setup (Progress.bind setup (Stage.andThen fun value => .noting (log value) (g value)) p) =
      Turn.noting log g (ofFirst setup p) := by
  obtain ⟨(value | ⟨users, finish⟩) | wait, s⟩ := p
  · simp only [Progress.bind, Stage.andThen, Plan.ofTask, advance_bind, advance_noting]
    rfl
  · exact ofPool_andThen setup log g (.make setup.warmer.concurrency users) finish s
  · rfl

theorem begin_andThen (plan : Plan α) (s : State) :
    begin setup (plan.andThen fun value => .noting (log value) (g value)) s =
      Turn.noting log g (begin setup plan s) := by
  rw [begin, Plan.andThen_eq, advance_bind, ofFirst_bind]
  rfl

theorem resume_andThen (job : Job α) (s : State) :
    (job.andThen fun value => .noting (log value) (g value)).resume setup s =
      Turn.noting log g (job.resume setup s) := by
  cases job with
  | before wait =>
    rw [resume, ← ofFirst_bind, ← resume_bind]
    rfl
  | warming pool finish => exact ofPool_andThen setup log g (pool.rouse s.clock) finish s
  | after wait =>
    rw [resume, ← ofLast_bind, ← resume_bind]
    rfl
  | sleep wake value =>
    simp only [andThen, resume, Waiting.resume, Waiting.until, advance_noting]
    rfl

end Job

/-! ### Plans -/

/-- The end of a plan that is followed by what goes to the log. -/
def noted : Option α × List Periodic × State → Option β × List Periodic × State
  | (some value, periodic, s) => (some (g value), periodic, s.note (log value))
  | (none, periodic, s) => (none, periodic, s)

theorem drive_andThen (fuel : Nat) (periodic : List Periodic) (job : Job α) (s : State) :
    drive setup fuel periodic (job.andThen fun value => .noting (log value) (g value)) s =
      noted log g (drive setup fuel periodic job s) := by
  induction fuel generalizing periodic job s with
  | zero => rfl
  | succ fuel ih =>
    rw [drive, drive, Job.wake_andThen]
    cases job.wake with
    | none => rfl
    | some moment =>
      dsimp only
      rw [Job.resume_andThen]
      obtain ⟨value | going, s'⟩ := job.resume setup (s.moveTo moment)
      case' finished => have resumed : (some _, _, _) = noted log g (some value, periodic, s') := rfl
      case' going => have resumed := ih periodic going s'
      -- Periodic runs come first before both or before neither.
      all_goals
        cases Periodic.takeFirst periodic with
        | none => exact resumed
        | some taken =>
          obtain ⟨first, others⟩ := taken
          dsimp only
          cases first.wake with
          | none => exact resumed
          | some due =>
            dsimp only
            split
            · exact ih _ job _
            · exact resumed

/-- A sequel that only writes to the log changes nothing but the answer and the log. -/
theorem carryOut_andThen (periodic : List Periodic) (plan : Plan α) (s : State) :
    carryOut setup periodic (plan.andThen fun value => .noting (log value) (g value)) s =
      noted log g (carryOut setup periodic plan s) := by
  unfold carryOut
  rw [Job.begin_andThen]
  rcases Job.begin setup plan s with ⟨value | job, s⟩
  · rfl
  · exact drive_andThen setup log g patience periodic job s

end
end Simulation
end FeedFanout
