import FeedFanout.Simulation.Progress

/-!
Many rebuilds side by side. Users start in order, as many at a time as the warmer allows; whenever one is finished the
next one starts. Rebuilds that are ready are run one after the other in the order in which they became ready.
-/
namespace FeedFanout.Simulation

/-- A rebuild that can go on. -/
inductive Ready
  | start
  | resume (wait : Waiting (Except WarmError Unit))

structure Pool where
  /-- Users not yet started. -/
  later : List UserId
  ready : List (UserId × Ready)
  waiting : List (UserId × Waiting (Except WarmError Unit))
  /-- Latest first. -/
  finished : List Warmed

namespace Pool

def make (concurrency : Nat) (users : List UserId) : Pool :=
  let width := max 1 concurrency
  ⟨users.drop width, (users.take width).map (·, .start), [], []⟩

def isFinished (p : Pool) : Bool := p.later.isEmpty && p.ready.isEmpty && p.waiting.isEmpty

def run (setup : Setup) (user : UserId) : Ready → State → Progress (Except WarmError Unit) × State
  | .start, s => advance setup (setup.warmer.warmUser user) s
  | .resume wait, s => wait.resume setup s

/-- Starts the next user, if there is one. -/
def startNext (p : Pool) : Pool :=
  match p.later with
  | [] => p
  | user :: later => { p with later, ready := p.ready ++ [(user, .start)] }

/-- Runs what is ready. Each step takes one rebuild from the ready ones, and puts at most one user in its place. -/
def settle (setup : Setup) : Nat → Pool → State → Pool × State
  | 0, p, s => (p, s)
  | fuel + 1, p, s =>
    match p.ready with
    | [] => (p, s)
    | (user, ready) :: rest =>
      let p := { p with ready := rest }
      match run setup user ready s with
      | (.finished result, s) =>
        settle setup fuel { p with finished := ⟨user, result⟩ :: p.finished }.startNext s
      | (.waiting wait, s) => settle setup fuel { p with waiting := p.waiting ++ [(user, wait)] } s

/-- Runs all that is ready and all that starts meanwhile. -/
def settleAll (setup : Setup) (p : Pool) (s : State) : Pool × State :=
  p.settle setup (p.ready.length + p.later.length) s

/-- The moment at which the next wait is over. -/
def wake (p : Pool) : Option Nat := (p.waiting.filterMap (·.2.wake)).min?

/-- The earliest begun of the waits that are over at that moment. -/
def ticket (p : Pool) : Option Nat :=
  ((p.waiting.filter fun (_, wait) => wait.wake = p.wake).map fun (_, wait) => wait.ticket).min?

/-- Places a wait behind those that are over before it. -/
def insertWait (w : UserId × Waiting (Except WarmError Unit)) :
    List (UserId × Waiting (Except WarmError Unit)) → List (UserId × Waiting (Except WarmError Unit))
  | [] => [w]
  | v :: vs =>
    let key (w : UserId × Waiting (Except WarmError Unit)) := (w.2.wake.getD 0, w.2.ticket)
    if (key w).1 < (key v).1 ∨ ((key w).1 = (key v).1 ∧ (key w).2 < (key v).2) then w :: v :: vs
    else v :: insertWait w vs

/-- Makes those ready whose wait is over at this moment: the earlier moment first, then the earlier begun. -/
def rouse (p : Pool) (now : Nat) : Pool :=
  let due (w : UserId × Waiting (Except WarmError Unit)) : Bool := w.2.wake.any (· ≤ now)
  let expired := (p.waiting.filter due).foldr insertWait []
  { p with
    waiting := p.waiting.filter (!due ·)
    ready := p.ready ++ expired.map fun (user, wait) => (user, .resume wait) }

private theorem insertWait_perm (w : UserId × Waiting (Except WarmError Unit))
    (waits : List (UserId × Waiting (Except WarmError Unit))) : (insertWait w waits).Perm (w :: waits) := by
  induction waits with
  | nil => exact .refl _
  | cons v vs ih =>
    unfold insertWait
    dsimp only
    split
    · exact .refl _
    · exact (ih.cons v).trans (.swap ..)

/-- A rebuild stops waiting by being made ready. -/
theorem rouse_ready (p : Pool) (now : Nat) :
    ∃ expired, (expired ++ (p.rouse now).waiting).Perm p.waiting ∧
      (p.rouse now).ready = p.ready ++ expired.map fun one => (one.1, .resume one.2) := by
  refine ⟨_, ?_, rfl⟩
  have sorted : ∀ waits : List (UserId × Waiting (Except WarmError Unit)), (waits.foldr insertWait []).Perm waits := by
    intro waits
    induction waits with
    | nil => exact .refl _
    | cons w waits ih => exact (insertWait_perm ..).trans (ih.cons w)
  exact ((sorted _).append_right _).trans (List.filter_append_perm _ _)

end Pool

end FeedFanout.Simulation
