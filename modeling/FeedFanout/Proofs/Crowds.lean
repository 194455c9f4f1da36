import FeedFanout.Proofs.Runs
import Mathlib.Data.List.Perm.Basic

/-!
Tasks beside each other, each going on one step at a time, in any order (`Crowd.Runs`). Their calls are met in the order
in which they are made (`Crowd.Runs.plays`), and each task sees only its own (`Crowd.Runs.goes`).
-/
namespace FeedFanout

/-- Tasks under way, and the world they share. -/
structure Crowd (α : Type) where
  tasks : List (Task α)
  world : World

/-- The calls of one task. -/
def own (i : Nat) (trace : List (Nat × Made)) : List Made := (trace.filter (·.1 = i)).map (·.2)

theorem own_append (i : Nat) (first second : List (Nat × Made)) :
    own i (first ++ second) = own i first ++ own i second := by
  simp [own]

theorem own_singleton (i j : Nat) (made : Made) : own i [(j, made)] = if j = i then [made] else [] := by
  by_cases same : j = i <;> simp [own, same]

theorem mem_own {i : Nat} {made : Made} {trace : List (Nat × Made)} : made ∈ own i trace ↔ (i, made) ∈ trace := by
  simp [own]

/-- Of the elements of a kind one is the last. -/
theorem exists_last {α : Type} {good : α → Prop} {xs : List α} (found : ∃ x ∈ xs, good x) :
    ∃ before x after, xs = before ++ x :: after ∧ good x ∧ ∀ y ∈ after, ¬good y := by
  induction xs with
  | nil => simp at found
  | cons x xs ih =>
    by_cases later : ∃ y ∈ xs, good y
    · obtain ⟨before, y, after, rfl, last, none⟩ := ih later
      exact ⟨x :: before, y, after, rfl, last, none⟩
    · obtain ⟨y, member, last⟩ := found
      rcases List.mem_cons.mp member with rfl | member
      · exact ⟨[], y, xs, rfl, last, fun z inside good => later ⟨z, inside, good⟩⟩
      · exact absurd ⟨y, member, last⟩ later

/-- The calls of the first tasks, however they were mixed. -/
theorem perm_own (trace : List (Nat × Made)) (n : Nat) :
    ((trace.filter (·.1 < n)).map (·.2)).Perm ((List.range n).flatMap fun i => own i trace) := by
  induction n with
  | zero => simp
  | succ n ih =>
    have earlier : (trace.filter (·.1 < n + 1)).filter (·.1 < n) = trace.filter (·.1 < n) := by
      rw [List.filter_filter]
      refine List.filter_congr ?_
      intro step _
      rw [← Bool.decide_and, decide_eq_decide]
      omega
    have last : (trace.filter (·.1 < n + 1)).filter (fun step => !decide (step.1 < n)) = trace.filter (·.1 = n) := by
      rw [List.filter_filter]
      refine List.filter_congr ?_
      intro step _
      rw [← decide_not, ← Bool.decide_and, decide_eq_decide]
      omega
    have parted := (List.filter_append_perm (·.1 < n) (trace.filter (·.1 < n + 1))).symm.map (·.2)
    rw [earlier, last, List.map_append] at parted
    rw [List.range_succ, List.flatMap_append, List.flatMap_singleton]
    exact parted.trans (ih.append_right _)

namespace Crowd
variable {α : Type}

/-- The tasks go on one step at a time, in any order. The calls come with the number of the task that makes them. -/
inductive Runs (manner : Manner) (start : Crowd α) : List (Nat × Made) → Crowd α → Prop
  | start : Runs manner start [] start
  | tell {trace : List (Nat × Made)} {c : Crowd α} {i : Nat} {notice : Notice} {next : Task α}
      (runs : Runs manner start trace c) (turn : c.tasks[i]? = some (.tell notice next)) :
      Runs manner start trace { c with tasks := c.tasks.set i next }
  | ask {trace : List (Nat × Made)} {c : Crowd α} {i : Nat} {call : Call} {next : call.Reply → Task α}
      {reply : call.Reply} {w : World} (runs : Runs manner start trace c)
      (turn : c.tasks[i]? = some (.ask call next)) (met : manner c.world ⟨call, some reply⟩ w) :
      Runs manner start (trace ++ [(i, ⟨call, some reply⟩)]) ⟨c.tasks.set i (next reply), w⟩
  | askWithin {trace : List (Nat × Made)} {c : Crowd α} {i : Nat} {limit : Span} {call : Call}
      {next : Option call.Reply → Task α} {reply : Option call.Reply} {w : World} (runs : Runs manner start trace c)
      (turn : c.tasks[i]? = some (.askWithin limit call next)) (met : manner c.world ⟨call, reply⟩ w) :
      Runs manner start (trace ++ [(i, ⟨call, reply⟩)]) ⟨c.tasks.set i (next reply), w⟩

namespace Runs
variable {manner : Manner} {start c : Crowd α} {trace : List (Nat × Made)}

theorem mono {few many : Manner} (wider : ∀ {w made w'}, few w made w' → many w made w')
    (runs : Runs few start trace c) : Runs many start trace c := by
  induction runs with
  | start => exact .start
  | tell runs turn ih => exact .tell ih turn
  | ask runs turn met ih => exact .ask ih turn (wider met)
  | askWithin runs turn met ih => exact .askWithin ih turn (wider met)

theorem plays (runs : Runs manner start trace c) : World.Plays manner start.world (trace.map (·.2)) c.world := by
  induction runs with
  | start => exact .nil _
  | tell runs turn ih => exact ih
  | ask runs turn met ih => rw [List.map_append]; exact ih.append (.cons met (.nil _))
  | askWithin runs turn met ih => rw [List.map_append]; exact ih.append (.cons met (.nil _))

/-- The world before and after one of the calls. -/
theorem plays_at {before after : List (Nat × Made)} {step : Nat × Made}
    (runs : Runs manner start (before ++ step :: after) c) :
    ∃ w₁ w₂, World.Plays manner start.world (before.map (·.2)) w₁ ∧ manner w₁ step.2 w₂ ∧
      World.Plays manner w₂ (after.map (·.2)) c.world := by
  have plays := runs.plays
  rw [List.map_append, List.map_cons] at plays
  obtain ⟨w₁, earlier, later⟩ := World.plays_append.mp plays
  obtain _ | ⟨met, later⟩ := later
  exact ⟨w₁, _, earlier, met, later⟩

private theorem goes_set {i j : Nat} {t held next : Task α} {tasks : List (Task α)} {calls more : List Made}
    (turn : tasks[i]? = some held) (moved : held.Goes more next)
    (before : ∃ rest, tasks[j]? = some rest ∧ t.Goes calls rest) :
    ∃ rest, (tasks.set i next)[j]? = some rest ∧ t.Goes (calls ++ if i = j then more else []) rest := by
  obtain ⟨rest, there, goes⟩ := before
  by_cases same : i = j
  · subst same
    obtain rfl : held = rest := by simpa [turn] using there
    have inside : i < tasks.length := (List.getElem?_eq_some_iff.mp turn).1
    exact ⟨next, by simp [inside], by simpa using goes.trans moved⟩
  · exact ⟨rest, by simp [List.getElem?_set_ne same, there], by simpa [same] using goes⟩

/-- Each task has made its own calls and no others. -/
theorem goes (runs : Runs manner start trace c) {i : Nat} {t : Task α} (begun : start.tasks[i]? = some t) :
    ∃ rest, c.tasks[i]? = some rest ∧ t.Goes (own i trace) rest := by
  induction runs with
  | start => exact ⟨t, begun, .stay t⟩
  | tell runs turn ih => simpa using goes_set turn (.tell (.stay _)) ih
  | ask runs turn met ih =>
    rw [own_append, own_singleton]
    exact goes_set turn (.ask (.stay _)) ih
  | askWithin runs turn met ih =>
    rw [own_append, own_singleton]
    exact goes_set turn (.askWithin (.stay _)) ih

theorem length_tasks (runs : Runs manner start trace c) : c.tasks.length = start.tasks.length := by
  induction runs with
  | start => rfl
  | tell runs turn ih => simpa using ih
  | ask runs turn met ih => simpa using ih
  | askWithin runs turn met ih => simpa using ih

private theorem of_turn (runs : Runs manner start trace c) {i : Nat} {now : Task α} (turn : c.tasks[i]? = some now) :
    ∃ t, start.tasks[i]? = some t := by
  have inside := (List.getElem?_eq_some_iff.mp turn).1
  exact ⟨_, List.getElem?_eq_getElem (runs.length_tasks ▸ inside)⟩

/-- Calls are made by tasks of the crowd. -/
theorem caller (runs : Runs manner start trace c) {i : Nat} {made : Made} (member : (i, made) ∈ trace) :
    ∃ t, start.tasks[i]? = some t := by
  induction runs with
  | start => cases member
  | tell runs turn ih => exact ih member
  | ask runs turn met ih =>
    rcases List.mem_append.mp member with earlier | last
    · exact ih earlier
    · cases List.mem_singleton.mp last
      exact runs.of_turn turn
  | askWithin runs turn met ih =>
    rcases List.mem_append.mp member with earlier | last
    · exact ih earlier
    · cases List.mem_singleton.mp last
      exact runs.of_turn turn

/-- One of the tasks goes on to its end, while the others wait. -/
theorem alone (runs : Runs World.Serves start trace c) {i : Nat} {t : Task α} (turn : c.tasks[i]? = some t) :
    ∃ calls, Runs World.Serves start (trace ++ calls)
      ⟨c.tasks.set i (.done (t.run c.world).1), (t.run c.world).2⟩ := by
  induction t generalizing trace c with
  | done value =>
    obtain ⟨inside, held⟩ := List.getElem?_eq_some_iff.mp turn
    exact ⟨[], by simpa [← held, Task.run] using runs⟩
  | tell notice next ih =>
    have inside := (List.getElem?_eq_some_iff.mp turn).1
    obtain ⟨calls, ran⟩ := ih (runs.tell turn) (by simp [inside])
    exact ⟨calls, by simpa [Task.run] using ran⟩
  | ask call next ih =>
    have inside := (List.getElem?_eq_some_iff.mp turn).1
    obtain ⟨calls, ran⟩ := ih (c.world.perform call).reply (runs.ask turn (.performed ..)) (by simp [inside])
    exact ⟨_ :: calls, by simpa [Task.run] using ran⟩
  | askWithin limit call next ih =>
    have inside := (List.getElem?_eq_some_iff.mp turn).1
    obtain ⟨calls, ran⟩ :=
      ih (some (c.world.perform call).reply) (runs.askWithin turn (.performed ..)) (by simp [inside])
    exact ⟨_ :: calls, by simpa [Task.run] using ran⟩

/-- All tasks can go on to their ends. -/
theorem finish (runs : Runs World.Serves start trace c) :
    ∃ more c', Runs World.Serves start (trace ++ more) c' ∧ ∀ t ∈ c'.tasks, ∃ value, t = .done value := by
  have each : ∀ n ≤ start.tasks.length, ∃ more c', Runs World.Serves start (trace ++ more) c' ∧
      ∀ i < n, ∃ value, c'.tasks[i]? = some (.done value) := by
    intro n
    induction n with
    | zero => exact fun _ => ⟨[], c, by simpa using runs, nofun⟩
    | succ n ih =>
      intro room
      obtain ⟨more, c₁, ran, ended⟩ := ih (Nat.le_of_succ_le room)
      have inside : n < c₁.tasks.length := ran.length_tasks ▸ room
      obtain ⟨calls, alone⟩ := ran.alone (List.getElem?_eq_getElem inside)
      refine ⟨more ++ calls, _, by rwa [← List.append_assoc], ?_⟩
      intro i less
      by_cases last : i = n
      · subst last
        exact ⟨_, List.getElem?_set_self inside⟩
      · rw [List.getElem?_set_ne (Ne.symm last)]
        exact ended i (by omega)
  obtain ⟨more, c', ran, ended⟩ := each _ (Nat.le_refl _)
  refine ⟨more, c', ran, ?_⟩
  intro t member
  obtain ⟨i, inside, rfl⟩ := List.mem_iff_getElem.mp member
  obtain ⟨value, done⟩ := ended i (ran.length_tasks ▸ inside)
  exact ⟨value, (List.getElem?_eq_some_iff.mp done).2⟩

end Runs

/-! ### Schedules -/

/-- One step of a task, without faults, and the call made in it. -/
def step (c : Crowd α) (i : Nat) : List (Nat × Made) × Crowd α :=
  match c.tasks[i]? with
  | some (.tell _ next) => ([], { c with tasks := c.tasks.set i next })
  | some (.ask call next) =>
    let answer := c.world.perform call
    ([(i, ⟨call, some answer.reply⟩)], ⟨c.tasks.set i (next answer.reply), answer.world⟩)
  | some (.askWithin _ call next) =>
    let answer := c.world.perform call
    ([(i, ⟨call, some answer.reply⟩)], ⟨c.tasks.set i (next (some answer.reply)), answer.world⟩)
  | _ => ([], c)

/-- Steps of the tasks with these numbers, one after the other. -/
def follow (c : Crowd α) : List Nat → List (Nat × Made) × Crowd α
  | [] => ([], c)
  | i :: schedule => ((c.step i).1 ++ ((c.step i).2.follow schedule).1, ((c.step i).2.follow schedule).2)

theorem Runs.step {start c : Crowd α} {trace : List (Nat × Made)} (runs : Runs World.Serves start trace c) (i : Nat) :
    Runs World.Serves start (trace ++ (c.step i).1) (c.step i).2 := by
  unfold Crowd.step
  split
  · rw [List.append_nil]; exact runs.tell ‹_›
  · exact runs.ask ‹_› (.performed ..)
  · exact runs.askWithin ‹_› (.performed ..)
  · rw [List.append_nil]; exact runs

theorem Runs.follow {start c : Crowd α} {trace : List (Nat × Made)} (runs : Runs World.Serves start trace c)
    (schedule : List Nat) :
    Runs World.Serves start (trace ++ (c.follow schedule).1) (c.follow schedule).2 := by
  induction schedule generalizing c trace with
  | nil => rw [Crowd.follow, List.append_nil]; exact runs
  | cons i schedule ih =>
    rw [Crowd.follow, ← List.append_assoc]
    exact ih (runs.step i)

end Crowd
end FeedFanout
