import FeedFanout.Proofs.Parallels
import FeedFanout.Simulation.Session

/-!
Discretion. Two programs in equal states are given faults that hit the same calls with errors of the same kinds and any
texts. Clients cannot tell them apart, whatever requests they send but for warm runs, and the programs end in equal
states again (`Session.discreet`).
-/
namespace FeedFanout.Simulation

/-- Sessions that differ in the texts of faults, past and to come, and in the log only. -/
structure Session.Alike (s t : Session) : Prop where
  setup : s.setup = t.setup
  state : s.state.Alike t.state
  periodic : List.Forall₂ Periodic.Akin s.periodic t.periodic
  viewers : s.viewers = t.viewers
  clients : s.clients = t.clients

/-- What clients get. A request that never ends has no reply. -/
inductive Result.Akin : Result → Result → Prop
  | never : Akin .never .never
  | reply {reply other : Http.Reply} (akin : reply.Akin other) : Akin (.reply reply) (.reply other)

/-- What clients and observers get. -/
structure Session.Record.Akin (record other : Session.Record) : Prop where
  result : record.result.Akin other.result
  events : record.events = other.events

namespace Session
variable {s t : Session}

theorem Alike.withNotifier (alike : s.Alike t) (notifier : Live.Notifier) :
    (s.withNotifier notifier).Alike (t.withNotifier notifier) := by
  have world : s.world = t.world := alike.state.world
  refine { alike with state := { alike.state with world := ?_ } }
  change { s.world with notifier } = { t.world with notifier }
  rw [world]

theorem Alike.leave (alike : s.Alike t) (stream : Option Live.Stream) : (s.leave stream).Alike (t.leave stream) := by
  have world : s.world = t.world := alike.state.world
  cases stream with
  | none => exact alike
  | some stream =>
    simp only [Session.leave, world]
    exact alike.withNotifier _

theorem Alike.openEvents (alike : s.Alike t) {reply other : Http.Reply} (akin : reply.Akin other) (name : Option String) :
    (s.openEvents reply name).Alike (t.openEvents other name) := by
  unfold Session.openEvents
  rw [akin.body, akin.headOnly]
  split
  next viewer stream _ =>
    have left : Alike (if other.headOnly then s.leave (some stream) else s)
      (if other.headOnly then t.leave (some stream) else t) := by
      split
      · exact alike.leave _
      · exact alike
    dsimp only
    generalize (if other.headOnly then s.leave (some stream) else s) = s at left
    generalize (if other.headOnly then t.leave (some stream) else t) = t at left
    have kept (clients : Table String Http.EventStream) : Alike { s with clients } { t with clients } :=
      ⟨left.setup, left.state, left.periodic, left.viewers, rfl⟩
    rw [left.clients, left.state.clock]
    exact (kept _).leave _
  · exact alike

/-- A request, and the name that an event stream gets if it opens one. -/
abbrev Asked := Http.Request × Option String

/-- The request is for something else than a warm run. -/
def Ordinary (asked : Asked) : Prop := Http.Route.ofPath? asked.1.target.path ≠ some .warm

instance : DecidablePred Ordinary := fun asked =>
  inferInstanceAs (Decidable (Http.Route.ofPath? asked.1.target.path ≠ some .warm))

theorem step_akin (alike : s.Alike t) {asked : Asked} (ordinary : Ordinary asked) :
    (s.step (.request asked.1 asked.2)).1.Akin (t.step (.request asked.1 asked.2)).1 ∧
      (s.step (.request asked.1 asked.2)).2.Alike (t.step (.request asked.1 asked.2)).2 := by
  have ends := carryOut_ends t.setup alike.periodic (Http.twin_serve t.setup.service t.setup.warmer ordinary) alike.state
  simp only [Session.step, Session.plan, alike.setup]
  generalize carryOut t.setup s.periodic (Http.serve t.setup.service t.setup.warmer asked.1) s.state = p at ends
  generalize carryOut t.setup t.periodic (Http.serve t.setup.service t.setup.warmer asked.1) t.state = q at ends
  obtain ⟨answer, periodic, state⟩ := p
  obtain ⟨answer', periodic', state'⟩ := q
  obtain ⟨answers, runs, after⟩ := ends
  have next : Alike { s with setup := t.setup, periodic, state } { t with periodic := periodic', state := state' } :=
    ⟨rfl, after, runs, alike.viewers, alike.clients⟩
  cases answers with
  | none => exact ⟨.never, next⟩
  | some akin => exact ⟨.reply akin, next.openEvents akin asked.2⟩

/-- The session behind some steps. -/
def after (s : Session) (steps : List Step) : Session := steps.foldl (fun s step => (s.record step).2) s

/-- The step of a request. -/
def Asked.step (asked : Asked) : Step := .request asked.1 asked.2

/-- What was told is taken away. -/
theorem Alike.hush (alike : s.Alike t) : Alike
    { s with state := { s.state with told := { s.state.told with events := [], remarks := [] } } }
    { t with state := { t.state with told := { t.state.told with events := [], remarks := [] } } } :=
  { alike with state := { alike.state with told := ⟨rfl, alike.state.told.metrics⟩ } }

theorem record_akin (alike : s.Alike t) {asked : Asked} (ordinary : Ordinary asked) :
    (s.record asked.step).1.Akin (t.record asked.step).1 ∧ (s.record asked.step).2.Alike (t.record asked.step).2 := by
  have answers := step_akin alike ordinary
  unfold Session.record Asked.step
  generalize s.step (.request asked.1 asked.2) = p at answers
  generalize t.step (.request asked.1 asked.2) = q at answers
  obtain ⟨result, after⟩ := answers
  exact ⟨⟨result, congrArg List.reverse after.state.told.events⟩, after.hush⟩

/-- Clients find nothing of the texts of errors, and no state depends on them. -/
theorem discreet (alike : s.Alike t) (requests : List Asked) (ordinary : ∀ asked ∈ requests, Ordinary asked) :
    List.Forall₂ Record.Akin (s.run (requests.map Asked.step)) (t.run (requests.map Asked.step)) ∧
      (s.after (requests.map Asked.step)).Alike (t.after (requests.map Asked.step)) := by
  induction requests generalizing s t with
  | nil => exact ⟨.nil, alike⟩
  | cons asked requests ih =>
    rw [List.forall_mem_cons] at ordinary
    obtain ⟨record, next⟩ := record_akin alike ordinary.1
    obtain ⟨records, after⟩ := ih next ordinary.2
    exact ⟨.cons record records, after⟩

/-- A store that fails once and a cache that always fails, with some text. A warm run is due. -/
def troubled (text : String) : Session where
  setup := ⟨{ policy := .bestEffort }, ⟨4, 1⟩, .memory, false, .metrics⟩
  state :=
    { world := World.empty 1 .ofNat, clock := 0, waits := 1, told := .nothing
      faults := [⟨.query, none, .error (.store (.persistence text)), some 1⟩,
        ⟨.exists, none, .error (.cache (.unavailable text)), none⟩] }
  periodic := [⟨1000, 1000, 0, none, true⟩]
  viewers := .empty
  clients := .empty

theorem troubled_alike (text other : String) : (troubled text).Alike (troubled other) where
  setup := rfl
  state :=
    { world := rfl, clock := rfl, waits := rfl, told := ⟨rfl, rfl⟩
      faults := .cons ⟨rfl, rfl, .error (.store (.persistence ..)), rfl⟩
        (.cons ⟨rfl, rfl, .error (.cache (.unavailable ..)), rfl⟩ .nil) }
  periodic := .cons ⟨rfl, rfl, rfl, .none, rfl⟩ .nil
  viewers := rfl
  clients := rfl

/-- Someone reads a feed, creates a post and reads the feed again. -/
def visits : List Asked :=
  let viewer := (Id.ofNat 7 : UserId).text
  let headers := [(Http.Request.viewerHeader, viewer.toUTF8), ("content-type", "application/json".toUTF8)]
  [(⟨"GET", ⟨"/post/feed", none⟩, headers, .empty⟩, none),
    (⟨"POST", ⟨"/post/create", none⟩, headers, "\x7b\"text\":\"hi\"\x7d".toUTF8⟩, none),
    (⟨"GET", ⟨"/post/feed", none⟩, headers, .empty⟩, none)]

theorem discreet_troubled :
    (troubled "disk full").Alike (troubled "no route to host") ∧ (∀ asked ∈ visits, Ordinary asked) ∧
      List.Forall₂ Record.Akin ((troubled "disk full").run (visits.map Asked.step))
        ((troubled "no route to host").run (visits.map Asked.step)) ∧
      ((troubled "disk full").after (visits.map Asked.step)).Alike
        ((troubled "no route to host").after (visits.map Asked.step)) := by
  have alike := troubled_alike "disk full" "no route to host"
  have ordinary : ∀ asked ∈ visits, Ordinary asked := by
    decide
  exact ⟨alike, ordinary, discreet alike visits ordinary⟩

example : ((troubled "disk full").run (visits.map Asked.step)).map (fun
    | ⟨.reply reply, _, _⟩ => some reply.status
    | _ => none) = [some 503, some 200, some 200] := by
  decide +kernel

end Session

end FeedFanout.Simulation
