import FeedFanout.Proofs.Sequels
import FeedFanout.Http.Router
import FeedFanout.Simulation.Session

/-!
Silence about failed requests. Failed requests are logged by what answers requests and by nothing else: neither the
service nor a warm run logs one, whatever they meet with (`drive_silent`, `carryOut_silent`), and no step of a session
does but a request (`Session.step_keeps`).
-/
namespace FeedFanout

/-- The failed request that a remark tells of. -/
def Remark.failure? : Remark → Option FailedRequest
  | .requestFailed request => some request
  | _ => none

theorem Event.failure?_of_remark? {e : Event} {r : Remark} (remark : e.remark? = some r) : r.failure? = none := by
  cases e <;> cases remark <;> rfl

theorem World.failure?_of_perform {w : World} {call : Call} {r : Remark} (member : r ∈ (w.perform call).remarks) :
    r.failure? = none := by
  cases call with
  | append post =>
    simp only [World.perform] at member
    split at member <;> cases member
  | publish user post =>
    simp only [World.perform] at member
    split at member
    · cases member
    · cases member
    · cases List.mem_singleton.mp member
      rfl
    · cases List.mem_singleton.mp member
      rfl
  | subscribe user =>
    simp only [World.perform] at member
    split at member <;> cases member
  | _ => cases member

/-! ### Tasks -/

/-- It tells of no failed request. -/
def Notice.Silent : Notice → Prop
  | .event _ => True
  | .remark r => r.failure? = none

namespace Task
variable {α β : Type}

/-- The task tells of no failed request, whatever the replies to its calls are, and answers well. -/
def Silent (good : α → Prop) : Task α → Prop
  | done value => good value
  | tell notice next => notice.Silent ∧ next.Silent good
  | ask _ next => ∀ reply, (next reply).Silent good
  | askWithin _ _ next => ∀ reply, (next reply).Silent good

theorem Silent.bind {good : α → Prop} {fine : β → Prop} {t : Task α} {f : α → Task β} (first : t.Silent good)
    (second : ∀ value, good value → (f value).Silent fine) : (t.bind f).Silent fine := by
  induction t with
  | done value => exact second value first
  | tell notice next ih => exact ⟨first.1, ih first.2⟩
  | ask call next ih | askWithin limit call next ih => exact fun reply => ih reply (first reply)

/-- The task tells of no failed request. -/
abbrev Quiet (t : Task α) : Prop := t.Silent fun _ => True

theorem Quiet.bind {t : Task α} {f : α → Task β} (first : t.Quiet) (second : ∀ value, (f value).Quiet) :
    (t.bind f).Quiet := Silent.bind first fun value _ => second value

theorem quiet_call (call : Call) : (Task.call call).Quiet := fun _ => trivial

end Task

/-- What follows the rebuilds of a stage tells of no failed request. -/
def Stage.Quiet {α : Type} : Stage α → Prop
  | .answer _ => True
  | .warmEach _ finish => ∀ results, (finish results).Quiet

/-- The plan tells of no failed request. -/
def Plan.Quiet {α : Type} (plan : Plan α) : Prop := Task.Silent Stage.Quiet plan

section
variable {α β : Type}

theorem Task.Quiet.ofTask {t : Task α} (quiet : t.Quiet) : (Plan.ofTask t).Quiet :=
  Silent.bind quiet fun _ _ => trivial

theorem Plan.Quiet.andThen {plan : Plan α} {f : α → Task β} (first : plan.Quiet) (second : ∀ value, (f value).Quiet) :
    (plan.andThen f).Quiet := by
  refine Task.Silent.bind first ?_
  rintro (value | ⟨users, finish⟩) quiet
  · exact (second value).ofTask
  · exact fun results => (quiet results).bind second

end

/-! ### The service and the warmer -/

namespace Service
variable (s : Service)

theorem quiet_within (operation : Operation) (call : Call) : (s.within operation call).Quiet := by
  rintro (_ | reply) <;> trivial

theorem quiet_friendsOf (user : UserId) : (s.friendsOf user).Quiet := by
  refine (s.quiet_within .friends _).bind ?_
  rintro (e | e | friends) <;> trivial

theorem quiet_served (user : UserId) (page : FeedPage) : (served user page).Quiet := ⟨trivial, trivial⟩

theorem quiet_readStored (user : UserId) (window : Window) : (s.readStored user window).Quiet := by
  refine (s.quiet_friendsOf user).bind ?_
  rintro (e | friends)
  · trivial
  refine (s.quiet_within .query _).bind ?_
  rintro (e | e | posts)
  · trivial
  · trivial
  · exact quiet_served user _

theorem quiet_readCached (user : UserId) (window : Window) : (s.readCached user window).Quiet := by
  refine (s.quiet_within .exists _).bind ?_
  rintro (e | e | _ | _)
  · trivial
  · trivial
  · trivial
  refine (s.quiet_within .read _).bind ?_
  rintro (e | e | entries)
  · trivial
  · trivial
  · dsimp only
    split <;> trivial

theorem quiet_feedPage (user : UserId) (window : Window) : (s.feedPage user window).Quiet := by
  unfold feedPage
  split
  · refine (s.quiet_readCached user window).bind ?_
    rintro (_ | reason | e | posts)
    · exact s.quiet_readStored user window
    · exact ⟨rfl, trivial, s.quiet_readStored user window⟩
    · trivial
    · exact quiet_served user _
  · exact s.quiet_readStored user window

theorem quiet_getFeed (user : UserId) (window : Window) : (s.getFeed user window).Quiet := by
  refine (s.quiet_feedPage user window).bind ?_
  rintro (e | page) <;> trivial

theorem quiet_deliver (post : Post) (entry : FeedEntry) (friend : UserId) : (s.deliver post entry friend).Quiet := by
  rintro (_ | e | _)
  · trivial
  · trivial
  · rintro (_ | e | _) <;> trivial

theorem quiet_reach (post : Post) (entry : FeedEntry) (friends : List UserId) :
    (s.reach post entry friends).Quiet := by
  induction friends with
  | nil => trivial
  | cons friend rest ih =>
    refine (s.quiet_deliver post entry friend).bind ?_
    rintro (_ | failure)
    · refine ⟨trivial, ?_⟩
      change Task.Quiet ((s.reach post entry rest).bind _)
      exact Task.Quiet.bind ih fun _ => trivial
    · refine ⟨trivial, rfl, ?_⟩
      cases s.policy with
      | failFast => trivial
      | bestEffort =>
        change Task.Quiet ((s.reach post entry rest).bind _)
        exact Task.Quiet.bind ih fun _ => trivial

theorem quiet_fanout (post : Post) (friends : List UserId) : (s.fanout post friends).Quiet := by
  rw [fanout_eq]
  exact (s.quiet_reach post _ _).bind fun _ => ⟨trivial, trivial⟩

theorem quiet_spread (author : UserId) (post : Post) : (s.spread author post).Quiet := by
  refine (s.quiet_friendsOf author).bind ?_
  rintro (e | friends)
  · trivial
  refine (s.quiet_fanout post friends).bind ?_
  rintro (e | delivered | report)
  · trivial
  · exact ⟨rfl, trivial⟩
  · exact ⟨rfl, trivial⟩

theorem quiet_createPost (author : UserId) (post : Post) : (s.createPost author post).Quiet := by
  unfold createPost
  split
  · trivial
  · refine (s.quiet_within .append _).bind ?_
    rintro (e | e | _)
    · trivial
    · trivial
    · exact ⟨trivial, s.quiet_spread author post⟩

end Service

namespace Warmer
variable (w : Warmer)

theorem quiet_warmUser (user : UserId) : (w.warmUser user).Quiet := by
  rw [warmUser_eq]
  rintro (e | friends)
  · trivial
  rintro (e | posts)
  · trivial
  rintro (e | _) <;> trivial

theorem quiet_summarize (results : List Warmed) : (summarize results).Quiet := by
  induction results with
  | nil => trivial
  | cons warmed rest ih =>
    obtain ⟨user, _ | _⟩ := warmed
    · refine ⟨rfl, ?_⟩
      change Task.Quiet ((summarize rest).bind _)
      exact Task.Quiet.bind ih fun _ => trivial
    · exact Task.Quiet.bind ih fun _ => trivial

theorem quiet_warmAll : w.warmAll.Quiet := by
  refine ⟨rfl, ?_⟩
  rintro (e | users)
  · trivial
  · exact fun results => (quiet_summarize results).bind fun _ => ⟨rfl, trivial⟩

end Warmer

namespace Simulation
variable {α : Type} {s s' : State} (setup : Setup)

/-! ### States -/

/-- The failed requests in the log, latest first. -/
def State.failures (s : State) : List FailedRequest := s.told.remarks.filterMap Remark.failure?

namespace State

theorem failures_note (s : State) (remarks : List Remark) :
    (s.note remarks).failures = (remarks.filterMap Remark.failure?).reverse ++ s.failures := by
  induction remarks generalizing s with
  | nil => rfl
  | cons r remarks ih =>
    refine (ih (s.remark r)).trans ?_
    cases failure : r.failure? <;> simp [failures, remark, Told.remark, failure]

theorem failures_remark {r : Remark} (silent : r.failure? = none) (s : State) : (s.remark r).failures = s.failures := by
  refine (failures_note s [r]).trans ?_
  rw [List.filterMap_cons_none silent]
  rfl

theorem failures_notice {notice : Notice} (silent : notice.Silent) (s : State) :
    (s.notice setup notice).failures = s.failures := by
  cases notice with
  | remark r => exact failures_remark silent s
  | event e =>
    simp only [State.notice, failures, Told.event]
    cases setup.audience with
    | nobody | listener => rfl
    | metrics =>
      dsimp only
      split
      · rename_i r remark
        exact List.filterMap_cons_none (Event.failure?_of_remark? remark)
      · rfl

@[simp] theorem failures_perform (call : Call) (s : State) : (s.perform setup call).2.failures = s.failures := by
  unfold perform
  split
  · rfl
  · refine (failures_note _ (s.world.perform call).remarks).trans ?_
    have silent : (s.world.perform call).remarks.filterMap Remark.failure? = [] :=
      List.filterMap_eq_nil_iff.mpr fun r member => World.failure?_of_perform member
    rw [silent]
    rfl

end State

@[simp] theorem failures_visit (call : Call) (s : State) : (visit setup call s).2.failures = s.failures := by
  have performed (faults : List Fault) : ({ s with faults }.perform setup call).2.failures = s.failures :=
    State.failures_perform setup call _
  cases hit : site? setup.storage.hasPool call with
  | none =>
    simp only [visit, hit]
    exact performed s.faults
  | some place =>
    simp only [visit, hit]
    obtain ⟨act, faults⟩ := takeFault place.1 place.2 s.faults
    cases act with
    | none => exact performed faults
    | some act =>
      cases act with
      | error trouble =>
        dsimp only
        cases trouble.reply? call with
        | none => exact performed faults
        | some reply => rfl
      | hang => rfl
      | hangAfter => exact performed faults
      | delay millis =>
        dsimp only
        split
        · exact performed faults
        · rfl

@[simp] theorem failures_beginTrim (user : UserId) (cap : Nat) (deadline : Option Nat) (s : State) :
    (beginTrim setup user cap deadline s).2.failures = s.failures := by
  have visited := failures_visit setup (.trim user cap) s
  unfold beginTrim
  generalize visit setup (.trim user cap) s = reached at visited
  obtain ⟨_ | _ | _, s'⟩ := reached <;> exact visited

@[simp] theorem failures_beginPush (user : UserId) (entry : FeedEntry) (cap : Nat) (deadline : Option Nat) (s : State) :
    (beginPush setup user entry cap deadline s).2.failures = s.failures := by
  have visited := failures_visit setup (.prepend user entry) s
  unfold beginPush
  generalize visit setup (.prepend user entry) s = reached at visited
  obtain ⟨(_ | _) | _ | _, s'⟩ := reached
  · exact visited
  · exact (failures_beginTrim setup user cap deadline s').trans visited
  · exact visited
  · exact visited

@[simp] theorem failures_beginCall (call : Call) (deadline : Option Nat) (s : State) :
    (beginCall setup call deadline s).2.failures = s.failures := by
  have visited := failures_visit setup call s
  unfold beginCall
  generalize setup.pushInTwo = halves
  cases halves <;> cases call
  case true.push user entry cap => exact failures_beginPush setup user entry cap deadline s
  all_goals
    dsimp only
    generalize visit setup _ s = reached at visited
    obtain ⟨_ | _ | _, s'⟩ := reached <;> exact visited

@[simp] theorem failures_resumeCall (call : Call) (part : Part) (deadline : Option Nat) (s : State) :
    (resumeCall setup call part deadline s).2.failures = s.failures := by
  cases call with
  | push user entry cap =>
    cases part with
    | whole => exact State.failures_perform setup (.push user entry cap) s
    | trim => exact State.failures_perform setup (.trim user cap) s
    | prepend =>
      have performed := State.failures_perform setup (.prepend user entry) s
      simp only [resumeCall]
      generalize s.perform setup (.prepend user entry) = answered at performed
      obtain ⟨_ | _, s'⟩ := answered
      · exact performed
      · exact (failures_beginTrim setup user cap deadline s').trans performed
  | _ => exact State.failures_perform setup _ s

/-! ### Tasks under way -/

/-- Something is fine, and no failed request was logged on the way to it. -/
structure Quietly {X : Type} (fine : X → Prop) (s : State) (p : X × State) : Prop where
  fine : fine p.1
  failures : p.2.failures = s.failures

theorem Quietly.behind {X : Type} {fine : X → Prop} {p : X × State} (quietly : Quietly fine s' p)
    (same : s'.failures = s.failures) : Quietly fine s p := ⟨quietly.fine, quietly.failures.trans same⟩

def Waiting.Silent (good : α → Prop) (wait : Waiting α) : Prop := ∀ reply, (wait.next reply).Silent good

def Progress.Silent (good : α → Prop) : Progress α → Prop
  | .finished value => good value
  | .waiting wait => wait.Silent good

variable {good : α → Prop}

theorem advance_silent {t : Task α} (silent : t.Silent good) (s : State) :
    Quietly (Progress.Silent good) s (advance setup t s) := by
  induction t generalizing s with
  | done value => exact ⟨silent, rfl⟩
  | tell notice next ih => exact (ih silent.2 _).behind (State.failures_notice setup silent.1 s)
  | ask call next ih =>
    have begun := failures_beginCall setup call none s
    simp only [advance]
    generalize beginCall setup call none s = reached at begun
    obtain ⟨(_ | reply) | ⟨wake, hold⟩, s'⟩ := reached
    · exact ⟨fun _ => silent, begun⟩
    · exact (ih reply (silent reply) s').behind begun
    · refine ⟨?_, begun⟩
      rintro (_ | reply)
      · exact silent
      · exact silent reply
  | askWithin limit call next ih =>
    have begun := failures_beginCall setup call (some (s.clock + limit.millis)) s
    simp only [advance]
    generalize beginCall setup call (some (s.clock + limit.millis)) s = reached at begun
    obtain ⟨reply | ⟨wake, hold⟩, s'⟩ := reached
    · exact (ih reply (silent reply) s').behind begun
    · exact ⟨silent, begun⟩

theorem resume_silent {wait : Waiting α} (silent : wait.Silent good) (s : State) :
    Quietly (Progress.Silent good) s (wait.resume setup s) := by
  obtain ⟨call, deadline, wake, hold, ticket, next⟩ := wait
  cases hold with
  | expire => exact advance_silent setup (silent none) s
  | forever => exact ⟨silent, rfl⟩
  | perform part =>
    have gone := failures_resumeCall setup call part deadline s
    simp only [Waiting.resume]
    generalize resumeCall setup call part deadline s = reached at gone
    obtain ⟨reply | ⟨wake, hold⟩, s'⟩ := reached
    · exact (advance_silent setup (silent reply) s').behind gone
    · exact ⟨silent, gone⟩

/-! ### Pools -/

/-- A rebuild that waits and will tell of no failed request. -/
abbrev Waiting.Quiet (wait : Waiting α) : Prop := wait.Silent fun _ => True

def Ready.Quiet : Ready → Prop
  | .start => True
  | .resume wait => wait.Quiet

structure Pool.Quiet (p : Pool) : Prop where
  ready : ∀ one ∈ p.ready, one.2.Quiet
  waiting : ∀ one ∈ p.waiting, one.2.Quiet

namespace Pool

theorem quiet_make (concurrency : Nat) (users : List UserId) : (make concurrency users).Quiet := by
  refine ⟨?_, nofun⟩
  intro one member
  obtain ⟨user, -, rfl⟩ := List.mem_map.mp member
  trivial

theorem run_quiet {ready : Ready} (quiet : ready.Quiet) (user : UserId) (s : State) :
    Quietly (Progress.Silent fun _ => True) s (run setup user ready s) := by
  cases ready with
  | start => exact advance_silent setup (setup.warmer.quiet_warmUser user) s
  | resume wait => exact resume_silent setup quiet s

theorem Quiet.startNext {p : Pool} (quiet : p.Quiet) : p.startNext.Quiet := by
  unfold Pool.startNext
  split
  · exact quiet
  · refine { quiet with ready := List.forall_mem_append.mpr ⟨quiet.ready, ?_⟩ }
    exact List.forall_mem_singleton.mpr trivial

theorem Quiet.rouse {p : Pool} (quiet : p.Quiet) (now : Nat) : (p.rouse now).Quiet := by
  obtain ⟨expired, perm, ready⟩ := p.rouse_ready now
  have waited : ∀ one ∈ expired ++ (p.rouse now).waiting, one.2.Quiet :=
    fun one member => quiet.waiting one (perm.mem_iff.mp member)
  rw [List.forall_mem_append] at waited
  refine ⟨?_, waited.2⟩
  rw [ready]
  exact List.forall_mem_append.mpr ⟨quiet.ready, List.forall_mem_map.mpr waited.1⟩

theorem settle_quiet (fuel : Nat) {p : Pool} (quiet : p.Quiet) (s : State) :
    Quietly Quiet s (p.settle setup fuel s) := by
  induction fuel generalizing p s with
  | zero => exact ⟨quiet, rfl⟩
  | succ fuel ih =>
    obtain ⟨later, ready, waiting, finished⟩ := p
    cases ready with
    | nil => exact ⟨quiet, rfl⟩
    | cons first rest =>
      obtain ⟨user, first⟩ := first
      obtain ⟨begins, others⟩ := List.forall_mem_cons.mp quiet.ready
      have gone := run_quiet setup begins user s
      simp only [settle]
      generalize run setup user first s = reached at gone
      obtain ⟨result | wait, s'⟩ := reached
      · have left : Quiet ⟨later, rest, waiting, ⟨user, result⟩ :: finished⟩ := ⟨others, quiet.waiting⟩
        exact (ih left.startNext s').behind gone.failures
      · refine (ih ⟨others, ?_⟩ s').behind gone.failures
        exact List.forall_mem_append.mpr ⟨quiet.waiting, List.forall_mem_singleton.mpr gone.fine⟩

end Pool

/-! ### Jobs -/

/-- The job will tell of no failed request. -/
def Job.Quiet : Job α → Prop
  | before wait => wait.Silent Stage.Quiet
  | warming pool finish => pool.Quiet ∧ ∀ results, (finish results).Quiet
  | after wait => wait.Quiet
  | sleep _ _ => True

def Turn.Quiet : Turn α → Prop
  | finished _ => True
  | going job => job.Quiet

namespace Job

theorem ofLast_quiet {p : Progress α × State} (quietly : Quietly (Progress.Silent fun _ => True) s p) :
    Quietly Turn.Quiet s (ofLast p) := by
  obtain ⟨value | wait, s'⟩ := p
  · exact ⟨trivial, quietly.failures⟩
  · exact ⟨quietly.fine, quietly.failures⟩

theorem ofPool_quiet {pool : Pool} (quiet : pool.Quiet) {finish : List Warmed → Task α}
    (ends : ∀ results, (finish results).Quiet) (s : State) : Quietly Turn.Quiet s (ofPool setup pool finish s) := by
  have settled := pool.settle_quiet setup (pool.ready.length + pool.later.length) quiet s
  unfold ofPool Pool.settleAll
  generalize pool.settle setup (pool.ready.length + pool.later.length) s = reached at settled
  obtain ⟨pool, s'⟩ := reached
  dsimp only
  split
  · exact ofLast_quiet ((advance_silent setup (ends _) s').behind settled.failures)
  · exact ⟨⟨settled.fine, ends⟩, settled.failures⟩

theorem ofFirst_quiet {p : Progress (Stage α) × State} (quietly : Quietly (Progress.Silent Stage.Quiet) s p) :
    Quietly Turn.Quiet s (ofFirst setup p) := by
  obtain ⟨(value | ⟨users, finish⟩) | wait, s'⟩ := p
  · exact ⟨trivial, quietly.failures⟩
  · exact (ofPool_quiet setup (Pool.quiet_make _ users) quietly.fine s').behind quietly.failures
  · exact ⟨quietly.fine, quietly.failures⟩

theorem begin_quiet {plan : Plan α} (quiet : plan.Quiet) (s : State) : Quietly Turn.Quiet s (begin setup plan s) :=
  ofFirst_quiet setup (advance_silent setup quiet s)

theorem resume_quiet {job : Job α} (quiet : job.Quiet) (s : State) : Quietly Turn.Quiet s (job.resume setup s) := by
  cases job with
  | before wait => exact ofFirst_quiet setup (resume_silent setup quiet s)
  | warming pool finish => exact ofPool_quiet setup (quiet.1.rouse s.clock) quiet.2 s
  | after wait => exact ofLast_quiet (resume_silent setup quiet s)
  | sleep wake value => exact ⟨trivial, rfl⟩

end Job

/-! ### Runs at regular times -/

/-- The run under way, if there is one, will tell of no failed request. -/
def Periodic.Quiet (p : Periodic) : Prop := ∀ job ∈ p.run, job.Quiet

namespace Periodic

theorem settle_quiet (p : Periodic) {turn : Turn (Except WarmError WarmReport) × State}
    (quietly : Quietly Turn.Quiet s turn) : Quietly Quiet s (p.settle turn) := by
  obtain ⟨(e | report) | job, s'⟩ := turn
  · exact ⟨nofun, (State.failures_remark rfl s').trans quietly.failures⟩
  · exact ⟨nofun, quietly.failures⟩
  · refine ⟨?_, quietly.failures⟩
    rintro _ ⟨⟩
    exact quietly.fine

theorem step_quiet {p : Periodic} (quiet : p.Quiet) (s : State) : Quietly Quiet s (p.step setup s) := by
  unfold step
  cases run : p.run with
  | none => exact settle_quiet _ (Job.begin_quiet setup setup.warmer.quiet_warmAll s)
  | some job => exact settle_quiet _ (Job.resume_quiet setup (quiet job run) s)

theorem forall_of_takeFirst {fine : Periodic → Prop} {periodic others : List Periodic} {first : Periodic}
    (all : ∀ p ∈ periodic, fine p) (taken : takeFirst periodic = some (first, others)) :
    ∀ p ∈ first :: others, fine p := by
  induction periodic generalizing first others with
  | nil => cases taken
  | cons p periodic ih =>
    obtain ⟨here, rest⟩ := List.forall_mem_cons.mp all
    rw [takeFirst] at taken
    split at taken
    · cases taken
      exact List.forall_mem_singleton.mpr here
    · rename_i q qs later
      obtain ⟨first', others'⟩ := List.forall_mem_cons.mp (ih rest later)
      split at taken
      · cases taken
        exact List.forall_mem_cons.mpr ⟨first', List.forall_mem_cons.mpr ⟨here, others'⟩⟩
      · cases taken
        exact List.forall_mem_cons.mpr ⟨here, List.forall_mem_cons.mpr ⟨first', others'⟩⟩

theorem start_silent (millis : Nat) {others : List Periodic} (quiet : ∀ run ∈ others, run.Quiet) (s : State) :
    Quietly (fun all => ∀ run ∈ all, run.Quiet) s (start millis others s) := by
  have released : ∀ run ∈ others.map fun run => { run with isHeld := false }, run.Quiet :=
    List.forall_mem_map.mpr fun run member => quiet run member
  unfold start
  dsimp only
  split
  · exact ⟨released, rfl⟩
  · exact ⟨List.forall_mem_cons.mpr ⟨nofun, released⟩, rfl⟩

end Periodic

/-! ### Plans -/

/-- No failed request was logged, and the runs at regular times will log none. -/
structure Silently (s : State) (p : Option α × List Periodic × State) : Prop where
  periodic : ∀ run ∈ p.2.1, run.Quiet
  failures : p.2.2.failures = s.failures

theorem Silently.behind {p : Option α × List Periodic × State} (silently : Silently s' p)
    (same : s'.failures = s.failures) : Silently s p := ⟨silently.periodic, silently.failures.trans same⟩

theorem drive_silent (fuel : Nat) {periodic : List Periodic} (runs : ∀ run ∈ periodic, run.Quiet) {job : Job α}
    (quiet : job.Quiet) (s : State) : Silently s (drive setup fuel periodic job s) := by
  induction fuel generalizing periodic job s with
  | zero => exact ⟨runs, rfl⟩
  | succ fuel ih =>
    rw [drive]
    cases job.wake with
    | none => exact ⟨runs, rfl⟩
    | some moment =>
      have turned := Job.resume_quiet setup quiet (s.moveTo moment)
      dsimp only
      generalize job.resume setup (s.moveTo moment) = turn at turned
      obtain ⟨value | going, s'⟩ := turn
      case' finished => have resumed : Silently s (some value, periodic, s') := ⟨runs, turned.failures⟩
      case' going => have resumed : Silently s _ := (ih runs turned.fine s').behind turned.failures
      -- Periodic runs come first or they do not.
      all_goals
        cases taken : Periodic.takeFirst periodic with
        | none => exact resumed
        | some runs' =>
          obtain ⟨first, others⟩ := runs'
          obtain ⟨quiet', rest⟩ := List.forall_mem_cons.mp (Periodic.forall_of_takeFirst runs taken)
          dsimp only
          cases first.wake with
          | none => exact resumed
          | some due =>
            dsimp only
            split
            · have stepped := Periodic.step_quiet setup quiet' (s.moveTo due)
              exact (ih (List.forall_mem_cons.mpr ⟨stepped.fine, rest⟩) quiet _).behind stepped.failures
            · exact resumed

/-- Plans that tell of no failed request leave the log without any, whatever warm runs go on beside them. -/
theorem carryOut_silent {periodic : List Periodic} (runs : ∀ run ∈ periodic, run.Quiet) {plan : Plan α}
    (quiet : plan.Quiet) (s : State) : Silently s (carryOut setup periodic plan s) := by
  have begun := Job.begin_quiet setup quiet s
  unfold carryOut
  generalize Job.begin setup plan s = turn at begun
  obtain ⟨value | job, s'⟩ := turn
  · exact ⟨runs, begun.failures⟩
  · exact (drive_silent setup patience runs begun.fine s').behind begun.failures

/-! ### Sessions -/

namespace Session

/-- The warm runs at regular times will tell of no failed request. -/
def Quiet (s : Session) : Prop := ∀ run ∈ s.periodic, run.Quiet

/-- Of two sessions the second came from the first, and no failed request was logged meanwhile. -/
structure Keeps (s t : Session) : Prop where
  quiet : t.Quiet
  failures : t.state.failures = s.state.failures

variable {s t : Session}

theorem Quiet.keeps (quiet : s.Quiet) : s.Keeps s := ⟨quiet, rfl⟩

theorem Keeps.leave (keeps : s.Keeps t) (stream : Option Live.Stream) : s.Keeps (t.leave stream) := by
  cases stream with
  | none => exact keeps
  | some stream => exact ⟨keeps.quiet, keeps.failures⟩

theorem Keeps.openEvents (keeps : s.Keeps t) (reply : Http.Reply) (name : Option String) :
    s.Keeps (t.openEvents reply name) := by
  unfold Session.openEvents
  split
  · rename_i viewer stream _
    have left : s.Keeps (if reply.headOnly then t.leave (some stream) else t) := by
      split
      · exact keeps.leave _
      · exact keeps
    dsimp only
    generalize (if reply.headOnly then t.leave (some stream) else t) = t at left
    have kept (clients : Table String Http.EventStream) : s.Keeps { t with clients } := ⟨left.quiet, left.failures⟩
    exact (kept _).leave _
  · exact keeps

theorem keeps_direct (quiet : s.Quiet) (call : Call) (result : call.Reply → Result) :
    s.Keeps (s.direct call result).2 := ⟨quiet, State.failures_perform s.setup call s.state⟩

theorem keeps_plan (quiet : s.Quiet) {plan : Plan α} (silent : plan.Quiet) {result : α → Session → Result × Session}
    (keeps : ∀ value t, s.Keeps t → s.Keeps (result value t).2) : s.Keeps (s.plan plan result).2 := by
  have carried := carryOut_silent s.setup quiet silent s.state
  unfold Session.plan
  generalize carryOut s.setup s.periodic plan s.state = ended at carried
  obtain ⟨answer, periodic, state⟩ := ended
  have after : s.Keeps { s with periodic, state } := ⟨carried.periodic, carried.failures⟩
  cases answer with
  | none => exact after
  | some value => exact keeps value _ after

theorem keeps_task (quiet : s.Quiet) {t : Task α} (silent : t.Quiet) (result : α → Result) :
    s.Keeps (s.task t result).2 := keeps_plan quiet silent.ofTask fun _ _ keeps => keeps

theorem keeps_subscribe (quiet : s.Quiet) (user : UserId) (name : String) : s.Keeps (s.subscribe user name).2 := by
  unfold Session.subscribe
  split
  · exact quiet.keeps
  · rename_i stream notifier _
    have kept (viewers : Table String Live.Stream) : s.Keeps { s.withNotifier notifier with viewers } := ⟨quiet, rfl⟩
    exact (kept _).leave _

theorem failures_readMany (count : Nat) (es : Http.EventStream) (s : State) :
    (readMany count es s).2.2.failures = s.failures := by
  induction count generalizing es s with
  | zero => rfl
  | succ count ih =>
    rw [readMany]
    obtain ⟨frame, es', missed⟩ := es.read s.world.notifier s.clock
    cases missed with
    | none =>
      cases frame with
      | data text => exact ih es' s
      | pending | ended => rfl
    | some missed =>
      have noted : (s.remark (.viewerLagged es'.viewer missed)).failures = s.failures := State.failures_remark rfl s
      cases frame with
      | data text => exact (ih es' _).trans noted
      | pending | ended => exact noted

/-- No step but a request logs a failed request. -/
theorem step_keeps (quiet : s.Quiet) {step : Step} (other : ∀ request name, step ≠ .request request name) :
    s.Keeps (s.step step).2 := by
  cases step with
  | friend | user | storeLength | cacheLength | feedLength | settings | topics | close | fault | clearFaults
  | metrics => exact ⟨quiet, rfl⟩
  | friendsOf | users | append | query | publish => exact keeps_direct quiet _ _
  | create by_ post => exact keeps_task quiet (s.setup.service.quiet_createPost by_ post) _
  | fanout post friends => exact keeps_task quiet (s.setup.service.quiet_fanout post friends) _
  | feed user limit offset =>
    simp only [Session.step]
    split
    · exact quiet.keeps
    · exact keeps_task quiet (s.setup.service.quiet_feedPage user _) _
  | getFeed user window => exact keeps_task quiet (s.setup.service.quiet_getFeed user window) _
  | subscribe user name => exact keeps_subscribe quiet user name
  | unsubscribe name =>
    have left := quiet.keeps.leave (s.viewers.get? name)
    exact ⟨left.quiet, left.failures⟩
  | receive name count =>
    simp only [Session.step]
    split <;> exact ⟨quiet, rfl⟩
  | warm => exact keeps_plan quiet s.setup.warmer.quiet_warmAll fun _ _ keeps => keeps
  | warmUser user => exact keeps_task quiet (s.setup.warmer.quiet_warmUser user) _
  | startPeriodic millis =>
    have started := Periodic.start_silent millis quiet s.state
    exact ⟨started.fine, started.failures⟩
  | stopPeriodic => exact ⟨fun run member => quiet run (List.mem_filter.mp member).1, rfl⟩
  | sleep millis =>
    have asleep : Job.Quiet (.sleep (s.state.clock + millis) ()) := trivial
    have driven := drive_silent s.setup patience quiet asleep s.state
    exact ⟨driven.periodic, driven.failures⟩
  | migrate =>
    simp only [Session.step]
    split <;> exact ⟨quiet, rfl⟩
  | request request name => exact absurd rfl (other request name)
  | readEvents name count =>
    simp only [Session.step]
    split
    · exact quiet.keeps
    · exact ⟨quiet, failures_readMany count _ s.state⟩
  | dropEvents name =>
    have left := quiet.keeps.leave ((s.clients.get? name).map (·.stream))
    exact ⟨left.quiet, left.failures⟩
  | _ => exact keeps_task quiet (Task.quiet_call _) _

end Session
end Simulation
end FeedFanout
