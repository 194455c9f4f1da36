import FeedFanout.Simulation.Fault
import FeedFanout.Task
import FeedFanout.World

/-!
Runs of tasks. A task meets a world call by call; a manner says how a call may be met: performed at once
(`World.Serves`), or with faults that leave the world as it is or as it would be (`World.Suffers`). `Task.run` and
`Task.Ends` are a task carried out alone, and `Task.Goes` is what the task itself sees of a run.
-/
namespace FeedFanout

/-- A call that was made, and its reply if one came in time. -/
structure Made where
  call : Call
  reply : Option call.Reply

/-- How calls may be met: from which world, with which reply, and what the world is then. -/
abbrev Manner := World → Made → World → Prop

namespace World

/-- Every call is performed. -/
inductive Serves : Manner
  | performed (w : World) (call : Call) : Serves w ⟨call, some (w.perform call).reply⟩ (w.perform call).world

/-- A call is performed, or fails without effect, or is not answered in its time, performed or not. -/
inductive Suffers : Manner
  | performed (w : World) (call : Call) : Suffers w ⟨call, some (w.perform call).reply⟩ (w.perform call).world
  | failed {call : Call} {trouble : Simulation.Trouble} {reply : call.Reply} (w : World)
      (fits : trouble.reply? call = some reply) : Suffers w ⟨call, some reply⟩ w
  | late (w : World) (call : Call) : Suffers w ⟨call, none⟩ w
  | lost (w : World) (call : Call) : Suffers w ⟨call, none⟩ (w.perform call).world

theorem Serves.suffers {w w' : World} {made : Made} (serves : Serves w made w') : Suffers w made w' := by
  cases serves; exact .performed ..

theorem Suffers.world {w w' : World} {made : Made} (suffers : Suffers w made w') :
    w' = w ∨ w' = (w.perform made.call).world := by
  cases suffers with
  | performed => exact .inr rfl
  | failed fits => exact .inl rfl
  | late => exact .inl rfl
  | lost => exact .inr rfl

/-- What succeeded was performed. -/
theorem Suffers.of_succeeded {w w' : World} {call : Call} {reply : call.Reply}
    (suffers : Suffers w ⟨call, some reply⟩ w') (succeeded : Simulation.succeeded call reply = true) :
    reply = (w.perform call).reply ∧ w' = (w.perform call).world := by
  cases suffers with
  | performed => exact ⟨rfl, rfl⟩
  | @failed _ trouble _ _ fits => cases call <;> cases trouble <;> cases fits <;> cases succeeded

/-- Calls met one after the other. -/
inductive Plays (manner : Manner) : World → List Made → World → Prop
  | nil (w : World) : Plays manner w [] w
  | cons {w w₁ w₂ : World} {made : Made} {rest : List Made} (met : manner w made w₁) (later : Plays manner w₁ rest w₂) :
      Plays manner w (made :: rest) w₂

theorem Plays.mono {few many : Manner} (wider : ∀ {w made w'}, few w made w' → many w made w') {w w' : World}
    {calls : List Made} (plays : Plays few w calls w') : Plays many w calls w' := by
  induction plays with
  | nil w => exact .nil w
  | cons met later ih => exact .cons (wider met) ih

theorem Plays.append {manner : Manner} {w w₁ w₂ : World} {first second : List Made} (left : Plays manner w first w₁)
    (right : Plays manner w₁ second w₂) : Plays manner w (first ++ second) w₂ := by
  induction left with
  | nil w => exact right
  | cons met later ih => exact .cons met (ih right)

theorem plays_append {manner : Manner} {w w₂ : World} {first second : List Made} :
    Plays manner w (first ++ second) w₂ ↔ ∃ w₁, Plays manner w first w₁ ∧ Plays manner w₁ second w₂ := by
  constructor
  · intro plays
    induction first generalizing w with
    | nil => exact ⟨w, .nil w, plays⟩
    | cons made first ih =>
      obtain _ | ⟨met, later⟩ := plays
      obtain ⟨w₁, left, right⟩ := ih later
      exact ⟨w₁, .cons met left, right⟩
  · rintro ⟨w₁, left, right⟩
    exact left.append right

/-- The moment at which a call was met. -/
theorem Plays.at {manner : Manner} {w w' : World} {calls : List Made} (plays : Plays manner w calls w') {made : Made}
    (member : made ∈ calls) :
    ∃ before after w₁ w₂, calls = before ++ made :: after ∧ Plays manner w before w₁ ∧ manner w₁ made w₂ ∧
      Plays manner w₂ after w' := by
  obtain ⟨before, after, rfl⟩ := List.append_of_mem member
  obtain ⟨w₁, earlier, later⟩ := plays_append.mp plays
  obtain _ | ⟨met, later⟩ := later
  exact ⟨before, after, w₁, _, rfl, earlier, met, later⟩

/-- What each of the calls keeps is kept by all of them. -/
theorem Plays.keeps {manner : Manner} {w w' : World} {calls : List Made} (plays : Plays manner w calls w')
    (good : World → Prop) (begun : good w)
    (step : ∀ made ∈ calls, ∀ w w', good w → manner w made w' → good w') : good w' := by
  induction plays with
  | nil w => exact begun
  | cons met later ih =>
    exact ih (step _ List.mem_cons_self _ _ begun met) fun made member => step made (List.mem_cons_of_mem _ member)

end World

namespace Task
variable {α β : Type}

theorem bind_eq (t : Task α) (f : α → Task β) : t >>= f = t.bind f := rfl
theorem pure_eq (value : α) : (pure value : Task α) = done value := rfl

/-! ### A task alone -/

/-- What a task answers without faults, and the world it leaves. -/
def run : Task α → World → α × World
  | done value, w => (value, w)
  | tell _ next, w => next.run w
  | ask call next, w => (next (w.perform call).reply).run (w.perform call).world
  | askWithin _ call next, w => (next (some (w.perform call).reply)).run (w.perform call).world

@[simp] theorem run_bind (t : Task α) (f : α → Task β) (w : World) :
    (t.bind f).run w = (f (t.run w).1).run (t.run w).2 := by
  induction t generalizing w with
  | done value => rfl
  | tell notice next ih => exact ih w
  | ask call next ih => exact ih _ _
  | askWithin limit call next ih => exact ih _ _

/-- A task carried out alone, to its end. -/
inductive Ends (manner : Manner) : Task α → World → α → World → Prop
  | done (value : α) (w : World) : Ends manner (done value) w value w
  | tell {notice : Notice} {next : Task α} {w w₁ : World} {value : α} (later : Ends manner next w value w₁) :
      Ends manner (tell notice next) w value w₁
  | ask {call : Call} {next : call.Reply → Task α} {reply : call.Reply} {w w₁ w₂ : World} {value : α}
      (met : manner w ⟨call, some reply⟩ w₁) (later : Ends manner (next reply) w₁ value w₂) :
      Ends manner (ask call next) w value w₂
  | askWithin {limit : Span} {call : Call} {next : Option call.Reply → Task α} {reply : Option call.Reply}
      {w w₁ w₂ : World} {value : α} (met : manner w ⟨call, reply⟩ w₁) (later : Ends manner (next reply) w₁ value w₂) :
      Ends manner (askWithin limit call next) w value w₂

theorem ends_serves_iff {t : Task α} {w w' : World} {value : α} :
    Ends World.Serves t w value w' ↔ t.run w = (value, w') := by
  constructor
  · intro ends
    induction ends with
    | done value w => rfl
    | tell later ih => exact ih
    | ask met later ih => cases met; exact ih
    | askWithin met later ih => cases met; exact ih
  · intro ran
    induction t generalizing w with
    | done result => cases ran; exact .done ..
    | tell notice next ih => exact .tell (ih ran)
    | ask call next ih => exact .ask (.performed ..) (ih _ ran)
    | askWithin limit call next ih => exact .askWithin (.performed ..) (ih _ ran)

theorem ends_run (t : Task α) (w : World) : Ends World.Serves t w (t.run w).1 (t.run w).2 := ends_serves_iff.mpr rfl

/-- A task in two parts ends with the end of the second. -/
theorem Ends.of_bind {manner : Manner} {t : Task α} {f : α → Task β} {w w' : World} {value : β}
    (ends : Ends manner (t.bind f) w value w') :
    ∃ middle w₁, Ends manner t w middle w₁ ∧ Ends manner (f middle) w₁ value w' := by
  induction t generalizing w with
  | done middle => exact ⟨middle, w, .done .., ends⟩
  | tell notice next ih =>
    obtain _ | ⟨later⟩ := ends
    obtain ⟨middle, w₁, first, second⟩ := ih later
    exact ⟨middle, w₁, .tell first, second⟩
  | ask call next ih =>
    obtain _ | _ | ⟨met, later⟩ := ends
    obtain ⟨middle, w₁, first, second⟩ := ih _ later
    exact ⟨middle, w₁, .ask met first, second⟩
  | askWithin limit call next ih =>
    obtain _ | _ | _ | ⟨met, later⟩ := ends
    obtain ⟨middle, w₁, first, second⟩ := ih _ later
    exact ⟨middle, w₁, .askWithin met first, second⟩

theorem Ends.mono {few many : Manner} (wider : ∀ {w made w'}, few w made w' → many w made w') {t : Task α}
    {w w' : World} {value : α} (ends : Ends few t w value w') : Ends many t w value w' := by
  induction ends with
  | done value w => exact .done value w
  | tell later ih => exact .tell ih
  | ask met later ih => exact .ask (wider met) ih
  | askWithin met later ih => exact .askWithin (wider met) ih

/-! ### What a task sees -/

/-- The task makes these calls, gets these replies and is left as the last task. -/
inductive Goes : Task α → List Made → Task α → Prop
  | stay (t : Task α) : Goes t [] t
  | tell {notice : Notice} {next t : Task α} {calls : List Made} (later : Goes next calls t) :
      Goes (tell notice next) calls t
  | ask {call : Call} {next : call.Reply → Task α} {reply : call.Reply} {t : Task α} {calls : List Made}
      (later : Goes (next reply) calls t) : Goes (ask call next) (⟨call, some reply⟩ :: calls) t
  | askWithin {limit : Span} {call : Call} {next : Option call.Reply → Task α} {reply : Option call.Reply} {t : Task α}
      {calls : List Made} (later : Goes (next reply) calls t) :
      Goes (askWithin limit call next) (⟨call, reply⟩ :: calls) t

namespace Goes

theorem trans {t middle last : Task α} {first second : List Made} (early : Goes t first middle)
    (late : Goes middle second last) : Goes t (first ++ second) last := by
  induction early with
  | stay t => exact late
  | tell _ ih => exact .tell (ih late)
  | ask _ ih => exact .ask (ih late)
  | askWithin _ ih => exact .askWithin (ih late)

/-- A task in two parts is in the first, and not done, or has come to the second. -/
theorem of_bind {t : Task α} {f : α → Task β} {last : Task β} {calls : List Made} (goes : Goes (t.bind f) calls last) :
    (∃ rest, Goes t calls rest) ∧ (∀ value, last ≠ .done value) ∨
      ∃ value first second, calls = first ++ second ∧ Goes t first (.done value) ∧ Goes (f value) second last := by
  induction t generalizing calls with
  | done value => exact .inr ⟨value, [], calls, rfl, .stay _, goes⟩
  | tell notice next ih =>
    obtain _ | ⟨later⟩ := goes
    · exact .inl ⟨⟨_, .stay _⟩, nofun⟩
    · obtain ⟨⟨rest, inside⟩, unfinished⟩ | ⟨value, first, second, split, inside, after⟩ := ih later
      · exact .inl ⟨⟨rest, .tell inside⟩, unfinished⟩
      · exact .inr ⟨value, first, second, split, .tell inside, after⟩
  | ask call next ih =>
    obtain _ | _ | ⟨later⟩ := goes
    · exact .inl ⟨⟨_, .stay _⟩, nofun⟩
    · obtain ⟨⟨rest, inside⟩, unfinished⟩ | ⟨value, first, second, split, inside, after⟩ := ih _ later
      · exact .inl ⟨⟨rest, .ask inside⟩, unfinished⟩
      · exact .inr ⟨value, _ :: first, second, by rw [split]; rfl, .ask inside, after⟩
  | askWithin limit call next ih =>
    obtain _ | _ | _ | ⟨later⟩ := goes
    · exact .inl ⟨⟨_, .stay _⟩, nofun⟩
    · obtain ⟨⟨rest, inside⟩, unfinished⟩ | ⟨value, first, second, split, inside, after⟩ := ih _ later
      · exact .inl ⟨⟨rest, .askWithin inside⟩, unfinished⟩
      · exact .inr ⟨value, _ :: first, second, by rw [split]; rfl, .askWithin inside, after⟩

/-- A task whose answer is only wrapped. -/
theorem of_map {t : Task α} {g : α → β} {last : Task β} {calls : List Made}
    (goes : Goes (t.bind fun answer => done (g answer)) calls last) :
    ∃ rest, Goes t calls rest ∧ ∀ value, last = .done value → ∃ answer, rest = .done answer ∧ g answer = value := by
  obtain ⟨⟨rest, inside⟩, unfinished⟩ | ⟨answer, first, second, rfl, inside, after⟩ := goes.of_bind
  · exact ⟨rest, inside, fun value done => absurd done (unfinished value)⟩
  · cases after
    rw [List.append_nil]
    exact ⟨_, inside, fun value same => ⟨answer, rfl, by cases same; rfl⟩⟩

end Goes

end Task

end FeedFanout
