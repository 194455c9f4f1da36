import FeedFanout.Proofs.Requests

/-!
Tasks amid others. Each call of a task has its own fate, and before each call others may do anything to the world
(`Task.amid`). A task that only reads leaves the world to the others (`Task.Within.leaves`). Where there are no others, a
task takes one of its courses (`Task.facing_eq`), and one in two parts takes those of its parts, one behind the other
(`Task.facing_bind`).
-/
namespace FeedFanout

/-- The world that the `n`-th call meets, if nobody but others changes it. -/
def World.passing (others : Nat → World → World) : Nat → World → World
  | 0, w => w
  | n + 1, w => passing (fun i => others (i + 1)) n (others 0 w)

theorem World.meet_reads (w : World) {call : Call} (reads : call.Reads) (fate : Fate) : (w.meet call fate).2 = w := by
  obtain ⟨other, same, world, -⟩ | ⟨-, kept⟩ := (w.falters_meet call fate).effect
  · obtain rfl := (Made.mk.inj same).1
    rw [world]
    cases call with
    | query | friendsOf | «exists» | read => rfl
    | _ => cases reads
  · exact kept

/-- The fate of the first call, and those of the later ones. -/
def Fate.before (first : Fate) (later : Nat → Fate) : Nat → Fate
  | 0 => first
  | i + 1 => later i

/-- A course, and another behind it. -/
def Course.andThen {α β : Type} (first : Course α) (second : Course β) : Course β :=
  ⟨first.calls ++ second.calls, first.events ++ second.events, second.answer, second.world⟩

/-- The same course with another answer. -/
def Course.answering {α β : Type} (course : Course α) (value : β) : Course β :=
  ⟨course.calls, course.events, some value, course.world⟩

namespace Task
variable {α β : Type}

/-- The course of a task where each call is met by its fate, and others change the world before each call. -/
def amid (fate : Call → Fate) : Task α → (Nat → World → World) → World → Course α
  | done value, _, w => ⟨[], [], some value, w⟩
  | tell notice next, others, w => (next.amid fate others w).hear notice
  | ask call next, others, w =>
    match (others 0 w).meet call (fate call) with
    | (some reply, w) => ((next reply).amid fate (fun i => others (i + 1)) w).call ⟨call, some reply⟩
    | (none, w) => ⟨[⟨call, none⟩], [], none, w⟩
  | askWithin _ call next, others, w =>
    let (reply, w) := (others 0 w).meet call (fate call)
    ((next reply).amid fate (fun i => others (i + 1)) w).call ⟨call, reply⟩

/-- The course of a task alone where each call is met by its fate. -/
def facing (fate : Call → Fate) (t : Task α) (w : World) : Course α := t.amid fate (fun _ => id) w

/-- A call that reads leaves the world to what follows. -/
theorem amid_reads {limit : Span} (call : Call) (reads : call.Reads) (next : Option call.Reply → Task α)
    (fate : Call → Fate) (others : Nat → World → World) (w : World) :
    (askWithin limit call next).amid fate others w =
      ((next ((others 0 w).meet call (fate call)).1).amid fate (fun i => others (i + 1)) (others 0 w)).call
        ⟨call, ((others 0 w).meet call (fate call)).1⟩ := by
  have kept := (others 0 w).meet_reads reads (fate call)
  rw [amid]
  generalize (others 0 w).meet call (fate call) = answer at kept ⊢
  obtain ⟨reply, w'⟩ := answer
  obtain rfl : w' = others 0 w := kept
  rfl

/-- A task that only reads leaves the world as the others have made it before its last call. -/
theorem Within.leaves {answers : α → Prop} {t : Task α} (within : t.Within Call.Reads answers) (fate : Call → Fate)
    (others : Nat → World → World) (w : World) :
    (t.amid fate others w).world = World.passing others (t.amid fate others w).calls.length w := by
  induction t generalizing others w with
  | done value => rfl
  | tell notice next ih => cases notice <;> exact ih within others w
  | ask call next ih =>
    obtain ⟨reads, later⟩ := within
    have kept := (others 0 w).meet_reads reads (fate call)
    unfold amid
    generalize (others 0 w).meet call (fate call) = answer at kept ⊢
    obtain ⟨_ | reply, w'⟩ := answer
    · exact kept
    · obtain rfl : w' = others 0 w := kept
      exact ih reply (later reply) _ _
  | askWithin limit call next ih =>
    obtain ⟨reads, later⟩ := within
    rw [amid_reads call reads]
    exact ih _ (later _) _ _

theorem facing_ask (fate : Call → Fate) (call : Call) (next : call.Reply → Task α) (w : World) :
    (ask call next).facing fate w =
      match w.meet call (fate call) with
      | (some reply, w) => ((next reply).facing fate w).call ⟨call, some reply⟩
      | (none, w) => ⟨[⟨call, none⟩], [], none, w⟩ := by
  rw [facing, amid]
  cases (w.meet call (fate call)).1 <;> rfl

theorem Within.goes {calls : Call → Prop} {answers : α → Prop} {t : Task α} (within : t.Within calls answers)
    {made : List Made} {value : α} (goes : t.Goes made (.done value)) : answers value := by
  generalize ended : Task.done value = last at goes
  induction goes with
  | stay t =>
    subst ended
    exact within
  | tell later ih => exact ih within ended
  | ask later ih => exact ih (within.2 _) ended
  | askWithin later ih => exact ih (within.2 _) ended

/-- A task that faces the fates of its calls takes one of its courses. -/
theorem facing_eq (fate : Call → Fate) (t : Task α) (w : World) : ∃ fates, t.facing fate w = t.course fates w := by
  induction t generalizing w with
  | done value => exact ⟨fun _ => .served, rfl⟩
  | tell notice next ih =>
    obtain ⟨fates, same⟩ := ih w
    exact ⟨fates, congrArg (·.hear notice) same⟩
  | ask call next ih =>
    rw [facing_ask]
    cases met : w.meet call (fate call) with
    | mk answer w' =>
      cases answer with
      | none => exact ⟨fun _ => fate call, by rw [course, met]⟩
      | some reply =>
        obtain ⟨fates, same⟩ := ih reply w'
        exact ⟨(fate call).before fates, by rw [course, Fate.before, met]; exact congrArg (Course.call · _) same⟩
  | askWithin limit call next ih =>
    obtain ⟨fates, same⟩ := ih (w.meet call (fate call)).1 (w.meet call (fate call)).2
    exact ⟨(fate call).before fates, congrArg (Course.call · _) same⟩

theorem facing_bind {t : Task α} {fate : Call → Fate} {w : World} {value : α} {f : α → Task β}
    (answered : (t.facing fate w).answer = some value) :
    (t.bind f).facing fate w = (t.facing fate w).andThen ((f value).facing fate (t.facing fate w).world) := by
  induction t generalizing w with
  | done held =>
    cases answered
    rfl
  | tell notice next ih =>
    have later := ih (w := w) (by cases notice <;> exact answered)
    cases notice with
    | event e => exact congrArg (Course.hear · (.event e)) later
    | remark r => exact later
  | ask call next ih =>
    rw [Task.bind, facing_ask]
    rw [facing_ask] at answered ⊢
    cases met : w.meet call (fate call) with
    | mk answer w' =>
      rw [met] at answered
      cases answer with
      | none => cases answered
      | some reply => exact congrArg (Course.call · _) (ih reply answered)
  | askWithin limit call next ih =>
    have later := ih (w.meet call (fate call)).1 (w := (w.meet call (fate call)).2) answered
    exact congrArg (Course.call · _) later

/-- A task whose answer is only wrapped takes the same course. -/
theorem facing_map {t : Task α} {fate : Call → Fate} {w : World} {value : α}
    (answered : (t.facing fate w).answer = some value) (g : α → β) :
    (t.bind fun answer => done (g answer)).facing fate w = (t.facing fate w).answering (g value) := by
  rw [facing_bind answered]
  change Course.mk ((t.facing fate w).calls ++ []) ((t.facing fate w).events ++ []) _ _ = _
  rw [List.append_nil, List.append_nil]
  rfl

theorem Timed.facing {t : Task α} (timed : t.Timed) (fate : Call → Fate) (w : World) :
    ∃ value, (t.facing fate w).answer = some value := by
  obtain ⟨fates, same⟩ := facing_eq fate t w
  rw [same]
  exact timed.answers fates w

end Task
end FeedFanout
