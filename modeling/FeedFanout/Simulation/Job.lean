import FeedFanout.Simulation.Pool

/-!
Jobs: plans under way. Between its steps a job waits for a moment of the clock.
-/
namespace FeedFanout.Simulation

inductive Job (α : Type)
  /-- Before the rebuilds side by side, if there are any. -/
  | before (wait : Waiting (Stage α))
  | warming (pool : Pool) (finish : List Warmed → Task α)
  | after (wait : Waiting α)
  /-- Until some moment. -/
  | sleep (wake : Nat) (value : α)

/-- Where a job stands after a step. -/
inductive Turn (α : Type)
  | finished (value : α)
  | going (job : Job α)

namespace Job
variable {α : Type}

def ofLast : Progress α × State → Turn α × State
  | (.finished value, s) => (.finished value, s)
  | (.waiting wait, s) => (.going (.after wait), s)

def ofPool (setup : Setup) (pool : Pool) (finish : List Warmed → Task α) (s : State) : Turn α × State :=
  let (pool, s) := pool.settleAll setup s
  if pool.isFinished then ofLast (advance setup (finish pool.finished.reverse) s)
  else (.going (.warming pool finish), s)

def ofFirst (setup : Setup) : Progress (Stage α) × State → Turn α × State
  | (.finished (.answer value), s) => (.finished value, s)
  | (.finished (.warmEach users finish), s) => ofPool setup (.make setup.warmer.concurrency users) finish s
  | (.waiting wait, s) => (.going (.before wait), s)

/-- Runs a plan until it is done or has to wait. -/
def begin (setup : Setup) (plan : Plan α) (s : State) : Turn α × State := ofFirst setup (advance setup plan s)

/-- The moment at which the job goes on, if it ever does. -/
def wake : Job α → Option Nat
  | before wait => wait.wake
  | warming pool _ => pool.wake
  | after wait => wait.wake
  | sleep moment _ => some moment

/-- Which of the waits begun so far the job waits for, of those that are over at that moment. -/
def ticket : Job α → Nat
  | before wait => wait.ticket
  | warming pool _ => pool.ticket.getD 0
  | after wait => wait.ticket
  | sleep _ _ => 0

/-- Goes on at that moment. -/
def resume (setup : Setup) (s : State) : Job α → Turn α × State
  | before wait => ofFirst setup (wait.resume setup s)
  | warming pool finish => ofPool setup (pool.rouse s.clock) finish s
  | after wait => ofLast (wait.resume setup s)
  | sleep _ value => (.finished value, s)

end Job

/-! ### The clock -/

/-- Warm runs at regular times. A run that is still going when the next is due delays it. -/
structure Periodic where
  interval : Nat
  /-- The moment at which the next run is due. -/
  due : Nat
  /-- Which of the waits begun so far the wait for that moment is. -/
  ticket : Nat
  /-- The run under way. -/
  run : Option (Job (Except WarmError WarmReport))
  /-- The runs end when they are told to, unless later ones have been started. -/
  isHeld : Bool

namespace Periodic

/-- The moment at which a run begins or goes on. -/
def wake (p : Periodic) : Option Nat :=
  match p.run with
  | none => some p.due
  | some job => job.wake

def waitTicket (p : Periodic) : Nat :=
  match p.run with
  | none => p.ticket
  | some job => job.ticket

/-- When the run after one that begins now is due: a run that begins late moves the later ones. -/
def nextDue (p : Periodic) (now : Nat) : Nat := if p.due + 5 < now then now + p.interval else p.due + p.interval

/-- Waits for the next run. -/
def rest (p : Periodic) (s : State) : Periodic × State :=
  ({ p with run := none, ticket := s.waits }, { s with waits := s.waits + 1 })

def settle (p : Periodic) : Turn (Except WarmError WarmReport) × State → Periodic × State
  | (.going job, s) => ({ p with run := some job }, s)
  | (.finished (.ok _), s) => p.rest s
  | (.finished (.error e), s) => p.rest (s.remark (.periodicWarmFailed e))

/-- Begins or goes on with a run at this moment. -/
def step (setup : Setup) (p : Periodic) (s : State) : Periodic × State :=
  match p.run with
  | none => settle { p with due := p.nextDue s.clock } (Job.begin setup setup.warmer.warmAll s)
  | some job => settle p (job.resume setup s)

/-- Of two, the one whose wait is over first, or else was begun first. -/
def isBefore (p q : Periodic) : Bool :=
  match p.wake, q.wake with
  | some a, some b => a < b || a = b && p.waitTicket < q.waitTicket
  | some _, none => true
  | none, _ => false

/-- The first of them, and the others. -/
def takeFirst : List Periodic → Option (Periodic × List Periodic)
  | [] => none
  | p :: ps =>
    match takeFirst ps with
    | none => some (p, [])
    | some (q, qs) => if q.isBefore p then some (q, p :: qs) else some (p, q :: qs)

/-- Starts runs beside others, the first of them after one interval. There are none without an interval. -/
def start (interval : Nat) (others : List Periodic) (s : State) : List Periodic × State :=
  let others := others.map ({ · with isHeld := false })
  if interval = 0 then (others, s)
  else ({ interval, due := s.clock + interval, ticket := s.waits, run := none, isHeld := true } :: others,
    { s with waits := s.waits + 1 })

/-- Ends the runs started last. -/
def stop (all : List Periodic) : List Periodic := all.filter (!·.isHeld)

end Periodic

/-- The clock at a moment that is not in the past. -/
def State.moveTo (s : State) (moment : Nat) : State := { s with clock := max s.clock moment }

/-- Lets the clock run until a job is done. No answer means that it will never be. Periodic runs that are due before
the job goes on come first. -/
def drive {α : Type} (setup : Setup) :
    Nat → List Periodic → Job α → State → Option α × List Periodic × State
  | 0, periodic, _, s => (none, periodic, s)
  | fuel + 1, periodic, job, s =>
    match job.wake with
    | none => (none, periodic, s)
    | some moment =>
      let resume (s : State) : Option α × List Periodic × State :=
        match job.resume setup (s.moveTo moment) with
        | (.finished value, s) => (some value, periodic, s)
        | (.going job, s) => drive setup fuel periodic job s
      match Periodic.takeFirst periodic with
      | none => resume s
      | some (first, others) =>
        match first.wake with
        | none => resume s
        | some due =>
          if max s.clock due < moment then
            let (first, s) := first.step setup (s.moveTo due)
            drive setup fuel (first :: others) job s
          else resume s

/-- Steps of the clock that one job may take. -/
def patience : Nat := 1000000000

/-- Carries out a plan, letting the clock run as far as it needs. -/
def carryOut {α : Type} (setup : Setup) (periodic : List Periodic) (plan : Plan α) (s : State) :
    Option α × List Periodic × State :=
  match Job.begin setup plan s with
  | (.finished value, s) => (some value, periodic, s)
  | (.going job, s) => drive setup patience periodic job s

end FeedFanout.Simulation
