import FeedFanout.Proofs.Diagnoses
import FeedFanout.Proofs.Discretion

/-!
Responses in the log. Whatever happened in a session before and whatever warm runs go on, a request that fails leaves
one record of its response in the log and any other request none, and the record tells what failed it
(`Session.responds`). No other step leaves such a record (`Session.responses_other`).
-/
namespace FeedFanout.Simulation.Session
variable {s : Session}

/-- A session at its beginning, in any state: nothing was told, and no warm runs go on. -/
def fresh (s : Session) : Session :=
  { s with periodic := [], state := { s.state with told := { s.state.told with events := [], remarks := [] } } }

/-- What handling a request comes to, if it comes to an end. -/
def outcome (s : Session) (r : Http.Request) : Option Http.Outcome :=
  (carryOut s.setup s.periodic (Http.outcome s.setup.service s.setup.warmer r) s.state).1

/-- Nothing was told in the session since its last step, and its warm runs will tell of no failed request. -/
structure Hushed (s : Session) : Prop where
  quiet : s.Quiet
  remarks : s.state.told.remarks = []

theorem hushed_fresh (s : Session) : s.fresh.Hushed := ⟨List.forall_mem_nil _, rfl⟩

/-- A request is answered with the reply to its outcome, and if that is a failure it is added to the log. -/
inductive Replies (s : Session) (r : Http.Request) : Option Http.Outcome → Result → Session → Prop
  | never {t : Session} (quiet : t.Quiet) (failures : t.state.failures = s.state.failures) : Replies s r none .never t
  | reply {o : Http.Outcome} {t : Session} (quiet : t.Quiet)
      (failures : t.state.failures = ((o.remarks r).filterMap Remark.failure?).reverse ++ s.state.failures) :
      Replies s r (some o) (.reply (o.answer r)) t

namespace Replies
variable {r : Http.Request} {result : Result} {t : Session}

theorem quiet {o : Option Http.Outcome} (replies : s.Replies r o result t) : t.Quiet := by
  cases replies with
  | never quiet _ | reply quiet _ => exact quiet

theorem of_none (replies : s.Replies r none result t) : result = .never ∧ t.state.failures = s.state.failures := by
  cases replies with
  | never _ failures => exact ⟨rfl, failures⟩

theorem of_some {o : Http.Outcome} (replies : s.Replies r (some o) result t) : result = .reply (o.answer r) ∧
    t.state.failures = ((o.remarks r).filterMap Remark.failure?).reverse ++ s.state.failures := by
  cases replies with
  | reply _ failures => exact ⟨rfl, failures⟩

end Replies

theorem step_request (quiet : s.Quiet) (r : Http.Request) (name : Option String) :
    s.Replies r (s.outcome r) (s.step (.request r name)).1 (s.step (.request r name)).2 := by
  have silent := carryOut_silent s.setup quiet (Http.quiet_outcome s.setup.service s.setup.warmer r) s.state
  simp only [outcome, Session.step, Session.plan, Http.serve_eq, carryOut_andThen]
  generalize carryOut s.setup s.periodic (Http.outcome s.setup.service s.setup.warmer r) s.state = ended at silent
  obtain ⟨answer, periodic, state⟩ := ended
  cases answer with
  | none => exact .never silent.periodic silent.failures
  | some o =>
    have noted := State.failures_note state (o.remarks r)
    have after : Quiet { s with periodic, state := state.note (o.remarks r) } := silent.periodic
    have opened := after.keeps.openEvents (o.answer r) name
    refine .reply opened.quiet (opened.failures.trans ?_)
    rw [noted, silent.failures]

/-! ### Runs -/

theorem record_result (s : Session) (step : Step) : (s.record step).1.result = (s.step step).1 := rfl

theorem record_remarks (s : Session) (step : Step) :
    (s.record step).1.remarks = (s.step step).2.state.told.remarks.reverse := rfl

/-- Nothing is left over of what was told in a step. -/
theorem Hushed.record (hushed : s.Hushed) (step : Step) : (s.record step).2.Hushed := by
  refine ⟨?_, rfl⟩
  change (s.step step).2.Quiet
  by_cases request : ∃ r name, step = .request r name
  · obtain ⟨r, name, rfl⟩ := request
    exact (step_request hushed.quiet r name).quiet
  · simp only [not_exists] at request
    exact (step_keeps hushed.quiet request).quiet

theorem Hushed.after (hushed : s.Hushed) (steps : List Step) : (s.after steps).Hushed := by
  induction steps generalizing s with
  | nil => exact hushed
  | cons step steps ih => exact ih (hushed.record step)

/-- The records of responses that a step leaves are those of the failures that it adds. -/
theorem Hushed.responses_record (hushed : s.Hushed) {step : Step} {added : List FailedRequest}
    (told : (s.step step).2.state.failures = added.reverse ++ s.state.failures) :
    Http.responses (s.record step).1.remarks = added.map .ofFailedRequest := by
  have before : s.state.failures = [] := by rw [State.failures, hushed.remarks, List.filterMap_nil]
  rw [before, List.append_nil, State.failures] at told
  rw [Http.responses_eq, record_remarks, List.filterMap_reverse, told, List.reverse_reverse]

/-- How a request is answered, and what is in the log about the response. -/
structure Responds (s : Session) (r : Http.Request) (name : Option String) : Prop where
  never : s.outcome r = none →
    (s.record (.request r name)).1.result = .never ∧ Http.responses (s.record (.request r name)).1.remarks = []
  ends : ∀ o, s.outcome r = some o → (s.record (.request r name)).1.result = .reply (o.answer r) ∧
    o.Logged r (Http.responses (s.record (.request r name)).1.remarks)

theorem responds (s : Session) (steps : List Step) (r : Http.Request) (name : Option String) :
    (s.fresh.after steps).Responds r name := by
  have hushed := s.hushed_fresh.after steps
  generalize s.fresh.after steps = s at hushed
  have replies := step_request hushed.quiet r name
  refine ⟨fun endless => ?_, fun o ends => ?_⟩
  · rw [endless] at replies
    obtain ⟨result, failures⟩ := replies.of_none
    exact ⟨(record_result ..).trans result, @Hushed.responses_record _ hushed _ [] failures⟩
  · rw [ends] at replies
    obtain ⟨result, failures⟩ := replies.of_some
    refine ⟨(record_result ..).trans result, ?_⟩
    rw [hushed.responses_record failures, ← Http.responses_eq]
    exact Http.logged r o

/-- Nothing but a request leaves a record of a response. -/
theorem responses_other (s : Session) (steps : List Step) {step : Step} (other : ∀ r name, step ≠ .request r name) :
    Http.responses ((s.fresh.after steps).record step).1.remarks = [] := by
  have hushed := s.hushed_fresh.after steps
  exact @Hushed.responses_record _ hushed _ [] (step_keeps hushed.quiet other).failures

end FeedFanout.Simulation.Session
