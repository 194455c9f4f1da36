import FeedFanout.Proofs.Twins
import FeedFanout.Simulation.Progress

/-!
Faults of one kind. Two programs that are in equal states and have faults to come with errors of the same kinds stay
beside each other: every call gets equally far in both, and leaves them in such states again (`beginCall_beside`,
`resumeCall_beside`).
-/
namespace FeedFanout.Simulation

/-! ### Faults -/

inductive Trouble.Akin : Trouble → Trouble → Prop
  | store {e e' : StoreError} (akin : e.Akin e') : Akin (.store e) (.store e')
  | cache {e e' : CacheError} (akin : e.Akin e') : Akin (.cache e) (.cache e')
  | notify {e e' : Live.NotifyError} (akin : e.Akin e') : Akin (.notify e) (.notify e')
  | database {e e' : DatabaseError} (akin : e.Akin e') : Akin (.database e) (.database e')

inductive Act.Akin : Act → Act → Prop
  | error {trouble other : Trouble} (akin : trouble.Akin other) : Akin (.error trouble) (.error other)
  | hang : Akin .hang .hang
  | hangAfter : Akin .hangAfter .hangAfter
  | delay (millis : Nat) : Akin (.delay millis) (.delay millis)

/-- Rules that hit the same calls in the same way, with any texts in the errors. -/
structure Fault.Akin (fault other : Fault) : Prop where
  site : fault.site = other.site
  user : fault.user = other.user
  act : fault.act.Akin other.act
  times : fault.times = other.times

theorem Trouble.Akin.reply? {trouble other : Trouble} (akin : trouble.Akin other) (call : Call) :
    Option.Rel call.Akin (trouble.reply? call) (other.reply? call) := by
  cases akin with
  | store akin | cache akin | notify akin | database akin =>
    cases call <;> first | exact .none | exact .some (.error akin)

theorem akin_takeFault (site : Site) (user : UserId) {faults others : List Fault}
    (akin : List.Forall₂ Fault.Akin faults others) :
    Option.Rel Act.Akin (takeFault site user faults).1 (takeFault site user others).1 ∧
      List.Forall₂ Fault.Akin (takeFault site user faults).2 (takeFault site user others).2 := by
  induction akin with
  | nil => exact ⟨.none, .nil⟩
  | @cons fault other faults others first rest ih =>
    have hits : fault.hits site user = other.hits site user := by
      rw [Fault.hits, first.site, first.user, first.times, Fault.hits]
    simp only [takeFault, hits]
    split
    · exact ⟨.some first.act, .cons ⟨first.site, first.user, first.act, congrArg (Option.map (· - 1)) first.times⟩ rest⟩
    · exact ⟨ih.1, .cons first ih.2⟩

/-! ### States -/

/-- The same events were told, and the same was counted. -/
structure Told.Alike (told other : Told) : Prop where
  events : told.events = other.events
  metrics : told.metrics = other.metrics

/-- States that differ in the texts of faults to come and in the log only. -/
structure State.Alike (s t : State) : Prop where
  world : s.world = t.world
  faults : List.Forall₂ Fault.Akin s.faults t.faults
  clock : s.clock = t.clock
  waits : s.waits = t.waits
  told : s.told.Alike t.told

theorem Told.Alike.remark {told other : Told} (alike : told.Alike other) {r q : Remark}
    (counted : ∀ metrics : Metrics, metrics.remark r = metrics.remark q) : (told.remark r).Alike (other.remark q) :=
  ⟨alike.events, by rw [Told.remark, Told.remark, alike.metrics, counted]⟩

theorem Told.Alike.event {told other : Told} (alike : told.Alike other) (audience : Audience) (e : Event) :
    (told.event audience e).Alike (other.event audience e) := by
  have heard : e :: told.events = e :: other.events := by rw [alike.events]
  have counted : told.metrics.hear e = other.metrics.hear e := by rw [alike.metrics]
  cases audience with
  | nobody => exact alike
  | listener => exact ⟨heard, alike.metrics⟩
  | metrics =>
    simp only [Told.event]
    cases e.remark? with
    | none => exact ⟨heard, counted⟩
    | some r => exact Told.Alike.remark ⟨heard, counted⟩ fun _ => rfl

namespace State.Alike
variable {s t : State}

theorem remark (alike : s.Alike t) {r q : Remark} (counted : ∀ metrics : Metrics, metrics.remark r = metrics.remark q) :
    (s.remark r).Alike (t.remark q) := { alike with told := alike.told.remark counted }

theorem wait (alike : s.Alike t) : State.Alike { s with waits := s.waits + 1 } { t with waits := t.waits + 1 } :=
  { alike with waits := congrArg (· + 1) alike.waits }

theorem remarks (alike : s.Alike t) (told : List Remark) :
    (told.foldl State.remark s).Alike (told.foldl State.remark t) := by
  induction told generalizing s t with
  | nil => exact alike
  | cons r told ih => exact ih (alike.remark fun _ => rfl)

end State.Alike

/-- Two results with the states behind them. -/
inductive Beside {α β : Type} (good : α → β → Prop) : α × State → β × State → Prop
  | intro {a : α} {b : β} {s t : State} (same : good a b) (alike : s.Alike t) : Beside good (a, s) (b, t)

/-- What is made of two such results. -/
@[elab_as_elim]
theorem Beside.elim {α β : Type} {good : α → β → Prop} {motive : α × State → β × State → Prop} {p : α × State}
    {q : β × State}
    (beside : Beside good p q) (each : ∀ a b s t, good a b → s.Alike t → motive (a, s) (b, t)) : motive p q := by
  cases beside with
  | intro same alike => exact each _ _ _ _ same alike

/-- A call without a fault. -/
theorem State.Alike.perform {s t : State} (alike : s.Alike t) (setup : Setup) (call : Call) :
    Beside Eq (s.perform setup call) (t.perform setup call) := by
  unfold State.perform
  split
  · exact ⟨rfl, alike⟩
  · have world : State.Alike { s with world := (s.world.perform call).world }
      { t with world := (t.world.perform call).world } := { alike with world := by rw [alike.world] }
    rw [alike.world] at world ⊢
    exact ⟨rfl, world.remarks _⟩

/-! ### Calls -/

inductive Visit.Akin {call : Call} : Visit call → Visit call → Prop
  | replied {reply other : call.Reply} (akin : call.Akin reply other) : Akin (.replied reply) (.replied other)
  | delayed (due : Nat) : Akin (.delayed due) (.delayed due)
  | stuck : Akin .stuck .stuck

inductive Pending.Akin {Reply : Type} (akin : Reply → Reply → Prop) : Pending Reply → Pending Reply → Prop
  | replied {reply other : Option Reply} (same : Option.Rel akin reply other) :
      Akin akin (.replied reply) (.replied other)
  | waits (wake : Option Nat) (hold : Hold) : Akin akin (.waits wake hold) (.waits wake hold)

section
variable {s t : State} (alike : s.Alike t) (setup : Setup)
include alike

theorem performed_beside (call : Call) :
    Beside Visit.Akin ((.replied (s.perform setup call).1 : Visit call), (s.perform setup call).2)
      ((.replied (t.perform setup call).1 : Visit call), (t.perform setup call).2) := by
  refine (alike.perform setup call).elim ?_
  rintro reply _ s t rfl alike
  exact ⟨.replied (.refl call reply), alike⟩

/-- A call under a fault. -/
theorem visit_beside (call : Call) : Beside Visit.Akin (visit setup call s) (visit setup call t) := by
  have left {faults others : List Fault} (akin : List.Forall₂ Fault.Akin faults others) :
      State.Alike { s with faults } { t with faults := others } := { alike with faults := akin }
  cases hit : site? setup.storage.hasPool call with
  | none =>
    simp only [visit, hit]
    exact performed_beside (left alike.faults) setup call
  | some place =>
    -- A call meets the same kind of fault in both, since no text has a part in which one it meets.
    have taken := akin_takeFault place.1 place.2 alike.faults
    simp only [visit, hit]
    generalize takeFault place.1 place.2 s.faults = p at taken
    generalize takeFault place.1 place.2 t.faults = q at taken
    obtain ⟨act, faults⟩ := p
    obtain ⟨act', others⟩ := q
    obtain ⟨same, rest⟩ := taken
    cases same with
    | none => exact performed_beside (left rest) setup call
    | some akin =>
      cases akin with
      | @error trouble other akin =>
        have replies := akin.reply? call
        dsimp only
        generalize trouble.reply? call = reply at replies
        generalize other.reply? call = reply' at replies
        cases replies with
        | none => exact performed_beside (left rest) setup call
        | some akin => exact ⟨.replied akin, left rest⟩
      | hang => exact ⟨.stuck, left rest⟩
      | hangAfter =>
        refine ((left rest).perform setup call).elim ?_
        rintro reply _ s t rfl after
        dsimp only
        split
        · exact ⟨.stuck, after⟩
        · exact ⟨.replied (.refl call reply), after⟩
      | delay millis =>
        have due : (Visit.delayed (s.clock + millis) : Visit call).Akin (.delayed (t.clock + millis)) := by
          rw [alike.clock]
          exact .delayed _
        dsimp only
        split
        · exact performed_beside (left rest) setup call
        · exact ⟨due, left rest⟩

/-- A part of a call that is due some time, if ever. -/
theorem pause_akin {Reply : Type} (akin : Reply → Reply → Prop) (deadline : Option Nat) (part : Part) (due : Option Nat) :
    (pause s.clock deadline part due).Akin akin (pause t.clock deadline part due) := by
  have expires (d : Nat) : (if d ≤ t.clock then .replied none else .waits (some d) .expire : Pending Reply).Akin akin
      (if d ≤ t.clock then .replied none else .waits (some d) .expire) := by
    split
    · exact .replied .none
    · exact .waits ..
  rw [alike.clock]
  unfold pause
  dsimp only
  split
  · split
    · exact .waits ..
    · exact expires _
  · exact .waits ..
  · exact expires _
  · exact .waits ..

theorem beginTrim_beside (user : UserId) (cap : Nat) (deadline : Option Nat) :
    Beside (Pending.Akin (Agree CacheError.Akin Eq)) (beginTrim setup user cap deadline s)
      (beginTrim setup user cap deadline t) := by
  unfold beginTrim
  refine (visit_beside alike setup (.trim user cap)).elim ?_
  intro v v' s t same after
  cases same with
  | replied akin => exact ⟨.replied (.some akin), after⟩
  | delayed due => exact ⟨pause_akin after _ deadline .trim (some due), after⟩
  | stuck => exact ⟨pause_akin after _ deadline .trim none, after⟩

theorem beginPush_beside (user : UserId) (entry : FeedEntry) (cap : Nat) (deadline : Option Nat) :
    Beside (Pending.Akin (Agree CacheError.Akin Eq)) (beginPush setup user entry cap deadline s)
      (beginPush setup user entry cap deadline t) := by
  unfold beginPush
  refine (visit_beside alike setup (.prepend user entry)).elim ?_
  intro v v' s t same after
  cases same with
  | replied akin =>
    obtain akin | rfl := akin
    · exact ⟨.replied (.some (.error akin)), after⟩
    · exact beginTrim_beside after setup user cap deadline
  | delayed due => exact ⟨pause_akin after _ deadline .prepend (some due), after⟩
  | stuck => exact ⟨pause_akin after _ deadline .prepend none, after⟩

/-- A call that is begun gets equally far. -/
theorem beginCall_beside (call : Call) (deadline : Option Nat) :
    Beside (Pending.Akin call.Akin) (beginCall setup call deadline s) (beginCall setup call deadline t) := by
  have visited := visit_beside alike setup call
  unfold beginCall
  generalize setup.pushInTwo = halves
  cases halves <;> cases call
  case true.push user entry cap => exact beginPush_beside alike setup user entry cap deadline
  all_goals
    dsimp only
    refine visited.elim ?_
    intro v v' s t same after
    cases same with
    | replied akin => exact ⟨.replied (.some akin), after⟩
    | delayed due => exact ⟨pause_akin after _ deadline .whole (some due), after⟩
    | stuck => exact ⟨pause_akin after _ deadline .whole none, after⟩

/-- A call that has waited goes on equally. -/
theorem resumeCall_beside (call : Call) (part : Part) (deadline : Option Nat) :
    Beside (Pending.Akin call.Akin) (resumeCall setup call part deadline s) (resumeCall setup call part deadline t) := by
  have whole (call : Call) : Beside (Pending.Akin call.Akin)
      ((.replied (some (s.perform setup call).1) : Pending call.Reply), (s.perform setup call).2)
      ((.replied (some (t.perform setup call).1) : Pending call.Reply), (t.perform setup call).2) := by
    refine (alike.perform setup call).elim ?_
    rintro reply _ s t rfl after
    exact ⟨.replied (.some (.refl call reply)), after⟩
  cases call with
  | push user entry cap =>
    cases part with
    | whole => exact whole (.push user entry cap)
    | prepend =>
      simp only [resumeCall]
      refine (alike.perform setup (.prepend user entry)).elim ?_
      rintro reply _ s t rfl after
      cases reply with
      | ok => exact beginTrim_beside after setup user cap deadline
      | error e => exact ⟨.replied (.some (.error (.refl e))), after⟩
    | trim => exact whole (.trim user cap)
  | _ => exact whole _

end

end FeedFanout.Simulation
