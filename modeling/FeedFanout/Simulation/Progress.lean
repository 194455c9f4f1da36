import FeedFanout.Simulation.State

/-!
How far a task gets before it has to wait. A call that is hit by a fault may leave its task waiting until a moment of
the clock: for the call to be done, or for its time to run out. A call that would be done just when its time runs out
is done.
-/
namespace FeedFanout.Simulation

/-- Which part of a call is meant: all of it, or one of the two halves of a push. -/
inductive Part
  | whole
  | prepend
  | trim
deriving DecidableEq, Repr

/-- What happens when a wait is over. -/
inductive Hold
  | perform (part : Part)
  /-- The time for the call has run out. -/
  | expire
  /-- The wait is never over. -/
  | forever
deriving DecidableEq, Repr

/-- A call under way. -/
inductive Pending (Reply : Type)
  /-- No reply if it did not come in time. -/
  | replied (reply : Option Reply)
  | waits (wake : Option Nat) (hold : Hold)

/-- A call that is done, begun later, or not at all. -/
inductive Visit (call : Call)
  | replied (reply : call.Reply)
  | delayed (due : Nat)
  | stuck

/-- Makes a call under the faults. -/
def visit (setup : Setup) (call : Call) (s : State) : Visit call × State :=
  let (act, faults) := match site? setup.storage.hasPool call with
    | some (site, user) => takeFault site user s.faults
    | none => (none, s.faults)
  let s := { s with faults }
  let perform (s : State) : Visit call × State :=
    let (reply, s) := s.perform setup call
    (.replied reply, s)
  match act with
  | none => perform s
  | some (.error trouble) =>
    match trouble.reply? call with
    | some reply => (.replied reply, s)
    | none => perform s
  | some .hang => (.stuck, s)
  | some .hangAfter =>
    let (reply, s) := s.perform setup call
    (if succeeded call reply then .stuck else .replied reply, s)
  | some (.delay millis) => if millis = 0 then perform s else (.delayed (s.clock + millis), s)

/-- The wait for a part of a call that is due at some time, if ever, within a deadline, if there is one. -/
def pause {Reply : Type} (now : Nat) (deadline : Option Nat) (part : Part) (due : Option Nat) : Pending Reply :=
  let expire (d : Nat) : Pending Reply := if d ≤ now then .replied none else .waits (some d) .expire
  match due, deadline with
  | some t, some d => if t ≤ d then .waits (some t) (.perform part) else expire d
  | some t, none => .waits (some t) (.perform part)
  | none, some d => expire d
  | none, none => .waits none .forever

/-- The second half of a push. -/
def beginTrim (setup : Setup) (user : UserId) (cap : Nat) (deadline : Option Nat) (s : State) :
    Pending (Except CacheError Unit) × State :=
  match visit setup (.trim user cap) s with
  | (.replied reply, s) => (.replied (some reply), s)
  | (.delayed due, s) => (pause s.clock deadline .trim (some due), s)
  | (.stuck, s) => (pause s.clock deadline .trim none, s)

/-- A push in two halves; the second is made only if the first succeeds. -/
def beginPush (setup : Setup) (user : UserId) (entry : FeedEntry) (cap : Nat) (deadline : Option Nat) (s : State) :
    Pending (Except CacheError Unit) × State :=
  match visit setup (.prepend user entry) s with
  | (.replied (.ok ()), s) => beginTrim setup user cap deadline s
  | (.replied (.error e), s) => (.replied (some (.error e)), s)
  | (.delayed due, s) => (pause s.clock deadline .prepend (some due), s)
  | (.stuck, s) => (pause s.clock deadline .prepend none, s)

/-- Begins a call. -/
def beginCall (setup : Setup) (call : Call) (deadline : Option Nat) (s : State) : Pending call.Reply × State :=
  match call, setup.pushInTwo with
  | .push user entry cap, true => beginPush setup user entry cap deadline s
  | call, _ =>
    match visit setup call s with
    | (.replied reply, s) => (.replied (some reply), s)
    | (.delayed due, s) => (pause s.clock deadline .whole (some due), s)
    | (.stuck, s) => (pause s.clock deadline .whole none, s)

/-- Does the part of a call that it waited for. -/
def resumeCall (setup : Setup) (call : Call) (part : Part) (deadline : Option Nat) (s : State) :
    Pending call.Reply × State :=
  match call, part with
  | .push user entry cap, .prepend =>
    match s.perform setup (.prepend user entry) with
    | (.ok (), s) => beginTrim setup user cap deadline s
    | (.error e, s) => (.replied (some (.error e)), s)
  | .push user _ cap, .trim =>
    let (reply, s) := s.perform setup (.trim user cap)
    (.replied (some reply), s)
  | call, _ =>
    let (reply, s) := s.perform setup call
    (.replied (some reply), s)

/-- A task that waits. -/
structure Waiting (α : Type) where
  call : Call
  deadline : Option Nat
  /-- The moment at which the wait is over. -/
  wake : Option Nat
  hold : Hold
  /-- Which of the waits begun so far this is. -/
  ticket : Nat
  next : Option call.Reply → Task α

inductive Progress (α : Type)
  | finished (value : α)
  | waiting (wait : Waiting α)

/-- Runs a task until it is done or has to wait. -/
def advance {α : Type} (setup : Setup) : Task α → State → Progress α × State
  | .done value, s => (.finished value, s)
  | .tell notice next, s => advance setup next (s.notice setup notice)
  | .ask call next, s =>
    match beginCall setup call none s with
    | (.replied (some reply), s) => advance setup (next reply) s
    | (.replied none, s) => (.waiting ⟨call, none, none, .forever, s.waits, fun _ => .ask call next⟩, s)
    | (.waits wake hold, s) =>
      (.waiting ⟨call, none, wake, hold, s.waits, fun
        | some reply => next reply
        | none => .ask call next⟩, { s with waits := s.waits + 1 })
  | .askWithin limit call next, s =>
    let deadline := some (s.clock + limit.millis)
    match beginCall setup call deadline s with
    | (.replied reply, s) => advance setup (next reply) s
    | (.waits wake hold, s) =>
      (.waiting ⟨call, deadline, wake, hold, s.waits, next⟩, { s with waits := s.waits + 1 })

/-- Runs a task on whose wait is over. -/
def Waiting.resume {α : Type} (setup : Setup) (w : Waiting α) (s : State) : Progress α × State :=
  match w.hold with
  | .expire => advance setup (w.next none) s
  | .forever => (.waiting w, s)
  | .perform part =>
    match resumeCall setup w.call part w.deadline s with
    | (.replied reply, s) => advance setup (w.next reply) s
    | (.waits wake hold, s) => (.waiting { w with wake, hold, ticket := s.waits }, { s with waits := s.waits + 1 })

end FeedFanout.Simulation
