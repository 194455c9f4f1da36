import FeedFanout.Proofs.Faults

/-!
Courses. Whatever becomes of its calls (`Fate`), a task takes one course: it makes calls, tells events, and leaves a
world (`Task.course`). It comes to an answer if it waits for no call without a limit (`Task.Timed.answers`). The calls
of a course are met with faults that have no effect (`Task.course_plays`), and belong to its answer
(`Task.course_goes`).
-/
namespace FeedFanout

/-- What becomes of a call. -/
inductive Fate
  | served
  /-- It fails, if it can fail in this way. -/
  | refused (trouble : Simulation.Trouble)
  /-- No reply comes in time. -/
  | unanswered

/-- The reply to a call, and the world after it. -/
def World.meet (w : World) (call : Call) : Fate → Option call.Reply × World
  | .served => (some (w.perform call).reply, (w.perform call).world)
  | .refused trouble =>
    match trouble.reply? call with
    | some reply => (some reply, w)
    | none => (some (w.perform call).reply, (w.perform call).world)
  | .unanswered => (none, w)

theorem World.falters_meet (w : World) (call : Call) (fate : Fate) :
    Falters w ⟨call, (w.meet call fate).1⟩ (w.meet call fate).2 := by
  cases fate with
  | served => exact .performed ..
  | unanswered => exact .late ..
  | refused trouble =>
    cases fits : trouble.reply? call with
    | some reply => simpa only [meet, fits] using .failed w fits
    | none => simpa only [meet, fits] using .performed w call

/-- All that a task does. -/
structure Course (α : Type) where
  calls : List Made
  events : List Event
  /-- Absent if the task waits for ever. -/
  answer : Option α
  world : World

namespace Course
variable {α : Type}

def call (course : Course α) (made : Made) : Course α := { course with calls := made :: course.calls }

def hear (course : Course α) : Notice → Course α
  | .event e => { course with events := e :: course.events }
  | .remark _ => course

end Course

namespace Task
variable {α β : Type}

/-- The course of a task when this is what becomes of its calls, in order. -/
def course : Task α → (Nat → Fate) → World → Course α
  | done value, _, w => ⟨[], [], some value, w⟩
  | tell notice next, fates, w => (next.course fates w).hear notice
  | ask call next, fates, w =>
    match w.meet call (fates 0) with
    | (some reply, w) => ((next reply).course (fun i => fates (i + 1)) w).call ⟨call, some reply⟩
    | (none, w) => ⟨[⟨call, none⟩], [], none, w⟩
  | askWithin _ call next, fates, w =>
    let (reply, w) := w.meet call (fates 0)
    ((next reply).course (fun i => fates (i + 1)) w).call ⟨call, reply⟩

/-- A call with a limit is met, and the task goes on with its reply. -/
theorem course_askWithin (limit : Span) (call : Call) (next : Option call.Reply → Task α) (fates : Nat → Fate)
    (w : World) :
    ∃ reply w' more, World.Falters w ⟨call, reply⟩ w' ∧
      (askWithin limit call next).course fates w = ((next reply).course more w').call ⟨call, reply⟩ :=
  ⟨_, _, _, w.falters_meet call (fates 0), rfl⟩

theorem course_plays (t : Task α) (fates : Nat → Fate) (w : World) :
    World.Plays World.Falters w (t.course fates w).calls (t.course fates w).world := by
  induction t generalizing fates w with
  | done value => exact .nil w
  | tell notice next ih => cases notice <;> exact ih fates w
  | ask call next ih =>
    have met := w.falters_meet call (fates 0)
    unfold course
    generalize w.meet call (fates 0) = answer at met ⊢
    obtain ⟨_ | reply, w'⟩ := answer
    · exact .cons met (.nil w')
    · exact .cons met (ih reply _ w')
  | askWithin limit call next ih => exact .cons (w.falters_meet call (fates 0)) (ih _ _ _)

theorem course_goes {t : Task α} {fates : Nat → Fate} {w : World} {value : α}
    (answers : (t.course fates w).answer = some value) : t.Goes (t.course fates w).calls (.done value) := by
  induction t generalizing fates w with
  | done held =>
    cases answers
    exact .stay _
  | tell notice next ih => cases notice <;> exact .tell (ih answers)
  | ask call next ih =>
    unfold course at answers ⊢
    generalize w.meet call (fates 0) = answer at answers ⊢
    obtain ⟨_ | reply, w'⟩ := answer
    · cases answers
    · exact .ask (ih reply answers)
  | askWithin limit call next ih => exact .askWithin (ih _ answers)

/-! ### Limited time -/

/-- The task waits for no call without a limit. -/
def Timed : Task α → Prop
  | done _ => True
  | tell _ next => next.Timed
  | ask _ _ => False
  | askWithin _ _ next => ∀ reply, (next reply).Timed

namespace Timed

theorem answers {t : Task α} (timed : t.Timed) (fates : Nat → Fate) (w : World) :
    ∃ value, (t.course fates w).answer = some value := by
  induction t generalizing fates w with
  | done value => exact ⟨value, rfl⟩
  | tell notice next ih => cases notice <;> exact ih timed fates w
  | ask call next ih => cases timed
  | askWithin limit call next ih => exact ih _ (timed _) _ _

theorem bind {t : Task α} {f : α → Task β} (first : t.Timed) (second : ∀ value, (f value).Timed) :
    (t.bind f).Timed := by
  induction t with
  | done value => exact second value
  | tell notice next ih => exact ih first
  | ask call next ih => cases first
  | askWithin limit call next ih => exact fun reply => ih reply (first reply)

end Timed
end Task

end FeedFanout
