import FeedFanout.Proofs.Courses
import FeedFanout.Proofs.Warming

/-!
What tasks and plans do, up to their end or to any point before (`Task.Does`, `Plan.Does`), met call by call in any
manner. A task keeps to kinds of calls and answers whatever the replies are (`Task.Within`), and what only writes to the
log adds nothing to a course (`Task.Does.of_bind`, `Plan.Does.of_andThen`).
-/
namespace FeedFanout

/-! ### Courses of tasks -/

namespace Course
variable {α β γ : Type}

/-- The same is done, and any answer is the other's under a function. -/
structure Becomes (inner : Course α) (g : α → β) (course : Course β) : Prop where
  calls : course.calls = inner.calls
  events : course.events = inner.events
  world : course.world = inner.world
  answer : ∀ value, course.answer = some value → ∃ held, inner.answer = some held ∧ value = g held

namespace Becomes
variable {inner : Course α} {g : α → β} {course : Course β}

theorem hear (becomes : inner.Becomes g course) (notice : Notice) :
    (inner.hear notice).Becomes g (course.hear notice) := by
  cases notice with
  | event e => exact { becomes with events := congrArg (e :: ·) becomes.events }
  | remark r => exact becomes

theorem call (becomes : inner.Becomes g course) (made : Made) : (inner.call made).Becomes g (course.call made) :=
  { becomes with calls := congrArg (made :: ·) becomes.calls }

end Becomes

/-- Nothing is done. -/
structure Idles (w : World) (good : α → Prop) (course : Course α) : Prop where
  calls : course.calls = []
  events : course.events = []
  world : course.world = w
  answer : ∀ value, course.answer = some value → good value

end Course

namespace Task
variable {α β : Type} {manner : Manner}

/-- What a task does alone, up to its end or to any point before. -/
inductive Does (manner : Manner) : Task α → World → Course α → Prop
  | left (t : Task α) (w : World) : Does manner t w ⟨[], [], none, w⟩
  | done (value : α) (w : World) : Does manner (done value) w ⟨[], [], some value, w⟩
  | tell {notice : Notice} {next : Task α} {w : World} {course : Course α} (later : Does manner next w course) :
      Does manner (tell notice next) w (course.hear notice)
  | ask {call : Call} {next : call.Reply → Task α} {reply : call.Reply} {w w' : World} {course : Course α}
      (met : manner w ⟨call, some reply⟩ w') (later : Does manner (next reply) w' course) :
      Does manner (ask call next) w (course.call ⟨call, some reply⟩)
  | askWithin {limit : Span} {call : Call} {next : Option call.Reply → Task α} {reply : Option call.Reply}
      {w w' : World} {course : Course α} (met : manner w ⟨call, reply⟩ w')
      (later : Does manner (next reply) w' course) :
      Does manner (askWithin limit call next) w (course.call ⟨call, reply⟩)

namespace Does
variable {t : Task α} {w : World} {course : Course α}

theorem plays (does : t.Does manner w course) : World.Plays manner w course.calls course.world := by
  induction does with
  | left t w => exact .nil w
  | done value w => exact .nil w
  | @tell notice next w course later ih => cases notice <;> exact ih
  | ask met later ih => exact .cons met ih
  | askWithin met later ih => exact .cons met ih

theorem goes (does : t.Does manner w course) :
    ∃ rest, t.Goes course.calls rest ∧ ∀ value, course.answer = some value → rest = .done value := by
  induction does with
  | left t w => exact ⟨t, .stay t, nofun⟩
  | done value w => exact ⟨_, .stay _, fun _ same => by cases same; rfl⟩
  | @tell notice next w course later ih =>
    obtain ⟨rest, goes, ended⟩ := ih
    cases notice <;> exact ⟨rest, .tell goes, ended⟩
  | ask met later ih =>
    obtain ⟨rest, goes, ended⟩ := ih
    exact ⟨rest, .ask goes, ended⟩
  | askWithin met later ih =>
    obtain ⟨rest, goes, ended⟩ := ih
    exact ⟨rest, .askWithin goes, ended⟩

/-- Whatever is done can be done without coming to an answer. -/
theorem unanswered (does : t.Does manner w course) :
    t.Does manner w ⟨course.calls, course.events, none, course.world⟩ := by
  induction does with
  | left t w => exact .left t w
  | done value w => exact .left _ w
  | @tell notice next w course later ih => cases notice <;> exact .tell ih
  | ask met later ih => exact .ask met ih
  | askWithin met later ih => exact .askWithin met ih

theorem of_becomes {inner : Course α} (does : t.Does manner w inner) (becomes : inner.Becomes id course) :
    t.Does manner w course := by
  obtain ⟨calls, events, value, world⟩ := course
  obtain ⟨rfl, rfl, rfl, answer⟩ := becomes
  cases value with
  | none => exact does.unanswered
  | some value =>
    obtain ⟨held, same, rfl⟩ := answer value rfl
    obtain ⟨calls, events, held, world⟩ := inner
    cases same
    exact does

/-- A task can be carried out to its end if all its calls are performed. -/
theorem of_run (performs : ∀ w call, manner w ⟨call, some (w.perform call).reply⟩ (w.perform call).world) (t : Task α)
    (w : World) :
    ∃ course, t.Does manner w course ∧ course.answer = some (t.run w).1 ∧ course.world = (t.run w).2 := by
  induction t generalizing w with
  | done value => exact ⟨_, .done value w, rfl, rfl⟩
  | tell notice next ih =>
    obtain ⟨course, does, ended⟩ := ih w
    cases notice <;> exact ⟨_, .tell does, ended⟩
  | ask call next ih =>
    obtain ⟨course, does, ended⟩ := ih _ (w.perform call).world
    exact ⟨_, .ask (performs w call) does, ended⟩
  | askWithin limit call next ih =>
    obtain ⟨course, does, ended⟩ := ih _ (w.perform call).world
    exact ⟨_, .askWithin (performs w call) does, ended⟩

theorem of_done {value : α} (does : (Task.done value).Does manner w course) : course.Idles w (· = value) := by
  cases does with
  | left => exact ⟨rfl, rfl, rfl, nofun⟩
  | done => exact ⟨rfl, rfl, rfl, fun _ same => by cases same; rfl⟩

end Does

/-- The task does no more than to write to the log, and then answers. -/
inductive Remarks : Task α → α → Prop
  | done (value : α) : Remarks (done value) value
  | remark (r : Remark) {next : Task α} {value : α} (later : Remarks next value) :
      Remarks (tell (.remark r) next) value

theorem Remarks.does {t : Task α} {value : α} {w : World} {course : Course α} (remarks : t.Remarks value)
    (does : t.Does manner w course) : course.Idles w (· = value) := by
  induction remarks generalizing course with
  | done value => exact does.of_done
  | remark r later ih =>
    cases does with
    | left => exact ⟨rfl, rfl, rfl, nofun⟩
    | tell later => exact ih later

theorem Remarks.bind {t : Task α} {value : α} (remarks : t.Remarks value) {f : α → Task β} {answer : β}
    (later : (f value).Remarks answer) : (t.bind f).Remarks answer := by
  induction remarks with
  | done value => exact later
  | remark r first ih => exact .remark r (ih later)

theorem Remarks.map {t : Task α} {value : α} (remarks : t.Remarks value) (g : α → β) :
    (t.bind fun held => .done (g held)).Remarks (g value) :=
  remarks.bind (.done _)

/-- A task behind which no more than the log is written to. -/
theorem Does.of_bind {t : Task α} {f : α → Task β} {g : α → β} (quiet : ∀ value, (f value).Remarks (g value))
    {w : World} {course : Course β} (does : (t.bind f).Does manner w course) :
    ∃ inner, t.Does manner w inner ∧ inner.Becomes g course := by
  induction t generalizing w course with
  | done value =>
    obtain ⟨calls, events, world, answer⟩ := (quiet value).does does
    exact ⟨_, .done value w, calls, events, world, fun _ same => ⟨value, rfl, answer _ same⟩⟩
  | tell notice next ih =>
    cases does with
    | left => exact ⟨_, .left _ w, rfl, rfl, rfl, nofun⟩
    | tell later =>
      obtain ⟨inner, does, becomes⟩ := ih later
      exact ⟨_, .tell does, becomes.hear notice⟩
  | ask call next ih =>
    cases does with
    | left => exact ⟨_, .left _ w, rfl, rfl, rfl, nofun⟩
    | ask met later =>
      obtain ⟨inner, does, becomes⟩ := ih _ later
      exact ⟨_, .ask met does, becomes.call _⟩
  | askWithin limit call next ih =>
    cases does with
    | left => exact ⟨_, .left _ w, rfl, rfl, rfl, nofun⟩
    | askWithin met later =>
      obtain ⟨inner, does, becomes⟩ := ih _ later
      exact ⟨_, .askWithin met does, becomes.call _⟩

/-- Whatever the replies, the task makes calls and gives answers of these kinds. -/
def Within (calls : Call → Prop) (answers : α → Prop) : Task α → Prop
  | done value => answers value
  | tell _ next => next.Within calls answers
  | ask call next => calls call ∧ ∀ reply, (next reply).Within calls answers
  | askWithin _ call next => calls call ∧ ∀ reply, (next reply).Within calls answers

namespace Within
variable {calls : Call → Prop} {answers : α → Prop} {t : Task α}

theorem bind {good : β → Prop} {f : α → Task β} (first : t.Within calls answers)
    (second : ∀ value, answers value → (f value).Within calls good) : (t.bind f).Within calls good := by
  induction t with
  | done value => exact second value first
  | tell notice next ih => exact ih first
  | ask call next ih => exact ⟨first.1, fun reply => ih reply (first.2 reply)⟩
  | askWithin limit call next ih => exact ⟨first.1, fun reply => ih reply (first.2 reply)⟩

theorem mono {fewer more : Call → Prop} (wider : ∀ call, fewer call → more call) {t : Task α}
    (within : t.Within fewer answers) : t.Within more answers := by
  induction t with
  | done value => exact within
  | tell notice next ih => exact ih within
  | ask call next ih => exact ⟨wider call within.1, fun reply => ih reply (within.2 reply)⟩
  | askWithin limit call next ih => exact ⟨wider call within.1, fun reply => ih reply (within.2 reply)⟩

theorem does {w : World} {course : Course α} (within : t.Within calls answers) (does : t.Does manner w course) :
    (∀ made ∈ course.calls, calls made.call) ∧ ∀ value, course.answer = some value → answers value := by
  induction does with
  | left t w => simp
  | done value w => exact ⟨by simp, fun _ same => by cases same; exact within⟩
  | @tell notice next w course later ih => cases notice <;> exact ih within
  | ask met later ih | askWithin met later ih =>
    obtain ⟨kept, good⟩ := ih (within.2 _)
    exact ⟨List.forall_mem_cons.mpr ⟨within.1, kept⟩, good⟩

end Within
end Task

/-! ### Courses of plans -/

/-- What a plan does, up to its end or to any point before. Its rebuilds go on beside each other and end in any order;
they tell nothing. -/
inductive Plan.Does {α : Type} (manner : Manner) (wm : Warmer) (plan : Plan α) (w : World) : Course α → Prop
  | left {first : Course (Stage α)} (does : Task.Does manner plan w first) :
      Does manner wm plan w ⟨first.calls, first.events, none, first.world⟩
  | answer {first : Course (Stage α)} {value : α} (does : Task.Does manner plan w first)
      (answered : first.answer = some (.answer value)) :
      Does manner wm plan w ⟨first.calls, first.events, some value, first.world⟩
  | warming {first : Course (Stage α)} {users : List UserId} {finish : List Warmed → Task α} {trace : List (Nat × Made)}
      {c : Crowd (Except WarmError Unit)} (does : Task.Does manner plan w first)
      (staged : first.answer = some (.warmEach users finish))
      (runs : Crowd.Runs manner ⟨users.map wm.warmUser, first.world⟩ trace c) :
      Does manner wm plan w ⟨first.calls ++ trace.map (·.2), first.events, none, c.world⟩
  | warmed {first : Course (Stage α)} {users : List UserId} {finish : List Warmed → Task α} {trace : List (Nat × Made)}
      {results : List (Except WarmError Unit)} {warmed : List Warmed} {w' : World} {last : Course α}
      (does : Task.Does manner plan w first) (staged : first.answer = some (.warmEach users finish))
      (runs : Crowd.Runs manner ⟨users.map wm.warmUser, first.world⟩ trace ⟨results.map .done, w'⟩)
      (heard : warmed.Perm (List.zipWith .mk users results)) (ends : (finish warmed).Does manner w' last) :
      Does manner wm plan w
        ⟨first.calls ++ trace.map (·.2) ++ last.calls, first.events ++ last.events, last.answer, last.world⟩

/-- A stage behind which a task follows that answers with a function. -/
def Stage.answered {α β : Type} (f : α → Task β) (g : α → β) : Stage α → Stage β
  | .answer value => .answer (g value)
  | .warmEach users finish => .warmEach users fun results => (finish results).bind f

namespace Plan.Does
variable {α β : Type} {manner : Manner} {wm : Warmer} {w : World}

theorem plays {plan : Plan α} {course : Course α} (does : Plan.Does manner wm plan w course) :
    World.Plays manner w course.calls course.world := by
  cases does with
  | left does => exact does.plays
  | answer does => exact does.plays
  | warming does staged runs => exact does.plays.append runs.plays
  | warmed does staged runs heard ends => exact (does.plays.append runs.plays).append ends.plays

theorem ofTask {t : Task α} {course : Course α} (does : Plan.Does manner wm (.ofTask t) w course) :
    t.Does manner w course := by
  have quiet : ∀ value : α, (Task.done (Stage.answer value)).Remarks (Stage.answer value) := fun value => .done _
  cases does with
  | left does =>
    obtain ⟨inner, does, calls, events, world, -⟩ := does.of_bind quiet
    exact does.of_becomes ⟨calls, events, world, nofun⟩
  | answer does answered =>
    obtain ⟨inner, does, calls, events, world, answer⟩ := does.of_bind quiet
    obtain ⟨held, same, staged⟩ := answer _ answered
    cases staged
    exact does.of_becomes ⟨calls, events, world, fun _ again => ⟨_, same, by cases again; rfl⟩⟩
  | warming does staged =>
    obtain ⟨inner, -, -, -, -, answer⟩ := does.of_bind quiet
    obtain ⟨held, -, same⟩ := answer _ staged
    cases same
  | warmed does staged =>
    obtain ⟨inner, -, -, -, -, answer⟩ := does.of_bind quiet
    obtain ⟨held, -, same⟩ := answer _ staged
    cases same

/-- A plan behind which no more than the log is written to. -/
theorem of_andThen {plan : Plan α} {f : α → Task β} {g : α → β} (quiet : ∀ value, (f value).Remarks (g value))
    {course : Course β} (does : Plan.Does manner wm (plan.andThen f) w course) :
    ∃ inner, Plan.Does manner wm plan w inner ∧ inner.Becomes g course := by
  have staged : ∀ stage, Task.Remarks (Plan.andThen (.done stage) f) (stage.answered f g) := by
    rintro (value | ⟨users, finish⟩)
    · exact (quiet value).map Stage.answer
    · exact .done _
  cases does with
  | left does =>
    obtain ⟨inner, does, calls, events, world, -⟩ := Task.Does.of_bind staged does
    exact ⟨_, .left does, calls, events, world, nofun⟩
  | answer does answered =>
    obtain ⟨inner, does, calls, events, world, answer⟩ := Task.Does.of_bind staged does
    obtain ⟨value | ⟨users, finish⟩, held, same⟩ := answer _ answered
    · cases same
      exact ⟨_, .answer does held, calls, events, world, fun _ again => ⟨value, rfl, by cases again; rfl⟩⟩
    · cases same
  | warming does warm runs =>
    obtain ⟨inner, does, calls, events, world, answer⟩ := Task.Does.of_bind staged does
    obtain ⟨value | ⟨users, finish⟩, held, same⟩ := answer _ warm
    · cases same
    · cases same
      rw [world] at runs
      exact ⟨_, .warming does held runs, congrArg (· ++ _) calls, events, rfl, nofun⟩
  | warmed does warm runs heard ends =>
    obtain ⟨inner, does, calls, events, world, answer⟩ := Task.Does.of_bind staged does
    obtain ⟨value | ⟨users, finish⟩, held, same⟩ := answer _ warm
    · cases same
    · cases same
      rw [world] at runs
      obtain ⟨last, ends, becomes⟩ := Task.Does.of_bind quiet ends
      exact ⟨_, .warmed does held runs heard ends, by rw [calls, becomes.calls], by rw [events, becomes.events],
        becomes.world, becomes.answer⟩

end Plan.Does

end FeedFanout
