import FeedFanout.Proofs.Interference
import Mathlib.Logic.Relation

/-!
Crews. The rebuilds of a plan are carried out by a crew: users are begun in order, so many at a time as the warmer
allows, the rebuilds go on one step at a time in any order, and each is heard of when it is over (`Crew.Step`). A plan
goes on from its beginning to the crew, and from there to its end (`Plan.Step`). No rebuild is lost and none is done
twice: the crew as a whole has one for each user, from first to last (`Crew.Step.tasks`).
-/
namespace FeedFanout

/-- There is a next step until it has come to something good, and whichever steps are made, it comes to that. -/
inductive Inevitably {State : Type} (step : State → State → Prop) (good : State → Prop) : State → Prop
  | now {s : State} (here : good s) : Inevitably step good s
  | later {s : State} (goes : ∃ next, step s next) (all : ∀ next, step s next → Inevitably step good next) :
      Inevitably step good s

namespace Inevitably
variable {State : Type} {step : State → State → Prop} {good : State → Prop} {s : State}

theorem mono {better : State → Prop} (inevitably : Inevitably step good s) (wider : ∀ s, good s → better s) :
    Inevitably step better s := by
  induction inevitably with
  | now here => exact .now (wider _ here)
  | later goes all ih => exact .later goes ih

/-- Whatever has come to its end has come to something good. -/
theorem reached (inevitably : Inevitably step good s) (final : ∀ s, good s → ∀ next, ¬step s next) {last : State}
    (runs : Relation.ReflTransGen step s last) (stuck : ∀ next, ¬step last next) : good last := by
  induction inevitably with
  | now here =>
    rcases runs.cases_head with rfl | ⟨next, first, -⟩
    · exact here
    · exact absurd first (final _ here next)
  | later goes all ih =>
    rcases runs.cases_head with rfl | ⟨next, first, rest⟩
    · obtain ⟨next, first⟩ := goes
      exact absurd first (stuck next)
    · exact ih next first rest

end Inevitably

/-- One step of a task. -/
inductive Task.Moves {α : Type} (manner : Manner) : Task α → World → Task α → World → Prop
  | tell (notice : Notice) (next : Task α) (w : World) : Moves manner (tell notice next) w next w
  | ask {call : Call} {next : call.Reply → Task α} {reply : call.Reply} {w w' : World}
      (met : manner w ⟨call, some reply⟩ w') : Moves manner (ask call next) w (next reply) w'
  | askWithin {limit : Span} {call : Call} {next : Option call.Reply → Task α} {reply : Option call.Reply}
      {w w' : World} (met : manner w ⟨call, reply⟩ w') : Moves manner (askWithin limit call next) w (next reply) w'

/-! ### Crews -/

/-- Rebuilds of many users' feeds. -/
structure Crew where
  /-- Not yet begun. -/
  later : List UserId
  busy : List (UserId × Task (Except WarmError Unit))
  /-- In the order in which they were heard of. -/
  finished : List Warmed
  world : World

namespace Crew

/-- One step of a crew. -/
inductive Step (manner : Manner) (wm : Warmer) : Crew → Crew → Prop
  | begin {user : UserId} {later : List UserId} {busy : List (UserId × Task (Except WarmError Unit))}
      {finished : List Warmed} {w : World} (room : busy.length < max 1 wm.concurrency) :
      Step manner wm ⟨user :: later, busy, finished, w⟩ ⟨later, busy ++ [(user, wm.warmUser user)], finished, w⟩
  | move {later : List UserId} (before after : List (UserId × Task (Except WarmError Unit))) {user : UserId}
      {t t' : Task (Except WarmError Unit)} {finished : List Warmed} {w w' : World} (moves : t.Moves manner w t' w') :
      Step manner wm ⟨later, before ++ (user, t) :: after, finished, w⟩
        ⟨later, before ++ (user, t') :: after, finished, w'⟩
  | finish {later : List UserId} (before after : List (UserId × Task (Except WarmError Unit))) {user : UserId}
      {result : Except WarmError Unit} {finished : List Warmed} {w : World} :
      Step manner wm ⟨later, before ++ (user, .done result) :: after, finished, w⟩
        ⟨later, before ++ after, finished ++ [⟨user, result⟩], w⟩

/-- All rebuilds of a crew, as far as they have come. -/
def tasks (wm : Warmer) (c : Crew) : List (UserId × Task (Except WarmError Unit)) :=
  c.finished.map (fun one => (one.user, .done one.result)) ++ c.busy ++ c.later.map fun user => (user, wm.warmUser user)

/-- How often a rebuild is still to be begun or heard of. -/
def outstanding (c : Crew) : Nat := c.busy.length + 2 * c.later.length

theorem perm_middle {α : Type} (first before : List α) (x : α) (after last : List α) :
    (first ++ (before ++ x :: after) ++ last).Perm (x :: (first ++ (before ++ after) ++ last)) := by
  have front : first ++ (before ++ x :: after) ++ last = (first ++ before) ++ x :: (after ++ last) := by simp
  rw [front]
  refine List.perm_middle.trans ?_
  simp

/-- In one step a rebuild is begun or heard of, and all rebuilds stay as they are, or one of them goes on. -/
theorem Step.tasks {manner : Manner} {wm : Warmer} {c c' : Crew} (step : Step manner wm c c') :
    (c'.world = c.world ∧ (c'.tasks wm).Perm (c.tasks wm) ∧ c'.outstanding < c.outstanding) ∨
      ∃ user t t' rest, (c.tasks wm).Perm ((user, t) :: rest) ∧ (c'.tasks wm).Perm ((user, t') :: rest) ∧
        t.Moves manner c.world t' c'.world ∧ c'.outstanding = c.outstanding := by
  cases step with
  | begin room =>
    refine .inl ⟨rfl, ?_, ?_⟩
    · simp [Crew.tasks]
    · simp [outstanding]
      omega
  | move before after moves =>
    refine .inr ⟨_, _, _, _, perm_middle .., perm_middle .., moves, ?_⟩
    simp [outstanding]
  | finish before after =>
    refine .inl ⟨rfl, ?_, ?_⟩
    · refine List.Perm.trans ?_ (perm_middle ..).symm
      simp [Crew.tasks]
    · simp [outstanding]

/-- A crew goes on until all its rebuilds are heard of, if each of their tasks does until it is done. -/
theorem goes_on {manner : Manner} (wm : Warmer) (c : Crew)
    (moves : ∀ t : Task (Except WarmError Unit),
      (∃ result, t = .done result) ∨ ∃ t' w', t.Moves manner c.world t' w') :
    (c.busy = [] ∧ c.later = []) ∨ ∃ next, Step manner wm c next := by
  obtain ⟨later, busy, finished, w⟩ := c
  cases busy with
  | cons one busy =>
    obtain ⟨user, t⟩ := one
    obtain ⟨result, rfl⟩ | ⟨t', w', move⟩ := moves t
    · exact .inr ⟨_, .finish [] busy⟩
    · exact .inr ⟨_, .move [] busy move⟩
  | nil =>
    cases later with
    | nil => exact .inl ⟨rfl, rfl⟩
    | cons user later => exact .inr ⟨_, .begin (Nat.lt_of_lt_of_le Nat.one_pos (Nat.le_max_left ..))⟩

end Crew

/-! ### Plans -/

/-- A point that a plan comes to. -/
inductive Plan.Point (α : Type)
  | first (plan : Plan α) (world : World)
  | middle (crew : Crew) (finish : List Warmed → Task α)
  | last (task : Task α) (world : World)

/-- One step of a plan. -/
inductive Plan.Step {α : Type} (manner : Manner) (wm : Warmer) : Point α → Point α → Prop
  | first {plan plan' : Plan α} {w w' : World} (moves : Task.Moves manner plan w plan' w') :
      Step manner wm (.first plan w) (.first plan' w')
  | answer {value : α} {w : World} : Step manner wm (.first (.done (.answer value)) w) (.last (.done value) w)
  | warmEach {users : List UserId} {finish : List Warmed → Task α} {w : World} :
      Step manner wm (.first (.done (.warmEach users finish)) w) (.middle ⟨users, [], [], w⟩ finish)
  | crew {c c' : Crew} {finish : List Warmed → Task α} (step : Crew.Step manner wm c c') :
      Step manner wm (.middle c finish) (.middle c' finish)
  | finish {finished : List Warmed} {finish : List Warmed → Task α} {w : World} :
      Step manner wm (.middle ⟨[], [], finished, w⟩ finish) (.last (finish finished) w)
  | last {t t' : Task α} {w w' : World} (moves : t.Moves manner w t' w') : Step manner wm (.last t w) (.last t' w')

namespace Plan
variable {α : Type} {manner : Manner} {wm : Warmer} {good : Point α → Prop}

theorem stuck (value : α) (w : World) (next : Point α) : ¬Step manner wm (.last (.done value) w) next := by
  intro step
  cases step with
  | last moves => cases moves

/-- A plan that has no more to do than to write to the log comes to its answer. -/
theorem inevitably_last {t : Task α} {value : α} (remarks : t.Remarks value) {w : World}
    (here : good (.last (.done value) w)) : Inevitably (Step manner wm) good (.last t w) := by
  induction remarks with
  | done value => exact .now here
  | remark r later ih =>
    refine .later ⟨_, .last (.tell ..)⟩ ?_
    intro next step
    cases step with
    | last moves =>
      cases moves
      exact ih here

end Plan
end FeedFanout
