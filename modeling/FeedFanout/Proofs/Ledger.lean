import FeedFanout.Proofs.Transcripts

/-!
The ledger of a run. A service meets one demand after the other, with collaborators of any kind (`Service.dealings`).
The events that it tells are a ledger of what it has done: each belongs to a step of its dealing, and over a run the
events of a kind add up to the steps (`Service.ledger`). Only reads that the cache has failed are told as degraded, and
each of them ends with a page from the store or with an error of another collaborator (`Service.degraded_or_denied`).
-/
namespace FeedFanout

/-- Kinds of events. -/
inductive Event.Kind
  | stored
  | delivered
  | failed
  | finished
  | served (source : Source)
  | degraded
deriving DecidableEq

namespace Event

def kind : Event → Kind
  | stored _ => .stored
  | delivered .. => .delivered
  | failed .. => .failed
  | finished .. => .finished
  | served _ source _ => .served source
  | degraded _ => .degraded

/-- How many friends the event reports as skipped. -/
def skips : Event → Nat
  | finished _ _ skipped => skipped
  | _ => 0

end Event

/-- How many of the events are of a kind. -/
def tally (kind : Event.Kind) (events : List Event) : Nat := events.countP (·.kind = kind)

/-- How many friends the events report as skipped. -/
def skipped (events : List Event) : Nat := (events.map Event.skips).sum

/-- The friends that a call has obtained. -/
def Made.friends? : Made → Option (List UserId)
  | ⟨.friendsOf _, some (.ok friends)⟩ => some friends
  | _ => none

/-- How many friends a post was for, by all friends that were obtained. -/
def Service.aimsIn (post : Post) (calls : List Made) : Nat :=
  ((calls.filterMap Made.friends?).map fun friends => (targets post friends).length).sum

/-- What a service is asked for. -/
inductive Demand
  | create (author : UserId) (post : Post)
  | page (user : UserId) (window : Window)

namespace Demand

abbrev Result : Demand → Type
  | create .. => PostId
  | page .. => FeedPage

def task (s : Service) : (demand : Demand) → Task (Except FeedError demand.Result)
  | create author post => s.createPost author post
  | page user window => s.feedPage user window

end Demand

/-- A demand that was met, and what was seen of it. -/
structure Dealing where
  demand : Demand
  seen : Transcript (Except FeedError demand.Result)

/-- All demands are met, one after the other. -/
def Service.dealings (s : Service) (replies : Replies) : List Made → List Demand → List Dealing
  | _, [] => []
  | earlier, demand :: demands =>
    let seen := (demand.task s).transcript replies earlier
    ⟨demand, seen⟩ :: s.dealings replies (earlier ++ seen.calls) demands

namespace Dealing

def calls (dealings : List Dealing) : List Made := dealings.flatMap (·.seen.calls)

def events (dealings : List Dealing) : List Event := dealings.flatMap (·.seen.events)

/-- How many friends the fanouts of a dealing were for. -/
def aims : Dealing → Nat
  | ⟨.create _ post, seen⟩ => Service.aimsIn post seen.calls
  | ⟨.page .., _⟩ => 0

/-- A read that the cache has failed, and that ended with an error. -/
def denied : Dealing → Bool
  | ⟨.create .., _⟩ => false
  | ⟨.page .., seen⟩ => Service.lost seen.calls && !(seen.answer matches some (.ok _))

end Dealing

@[simp] theorem tally_nil (kind : Event.Kind) : tally kind [] = 0 := rfl

theorem tally_cons (kind : Event.Kind) (event : Event) (events : List Event) :
    tally kind (event :: events) = tally kind events + if event.kind = kind then 1 else 0 := by
  simp [tally, List.countP_cons]

theorem tally_append (kind : Event.Kind) (first second : List Event) :
    tally kind (first ++ second) = tally kind first + tally kind second := List.countP_append

@[simp] theorem skipped_nil : skipped [] = 0 := rfl

theorem skipped_cons (event : Event) (events : List Event) : skipped (event :: events) = event.skips + skipped events :=
  List.sum_cons

theorem skipped_append (first second : List Event) : skipped (first ++ second) = skipped first + skipped second := by
  simp [skipped]

namespace Service
variable {s : Service} {post : Post} {author user : UserId}

/-! ### Creations -/

/-- What a creation tells. -/
structure CreationTold (s : Service) (author : UserId) (post : Post) (seen : Transcript (Except FeedError PostId)) :
    Prop where
  answer : ∃ answer, seen.answer = some answer
  unstored : ⟨.append post, some (.ok ())⟩ ∉ seen.calls →
    seen.events = [] ∧ ∃ e, seen.answer = some (.error e)
  unlisted : ⟨.append post, some (.ok ())⟩ ∈ seen.calls →
    (∀ friends, ⟨.friendsOf author, some (.ok friends)⟩ ∉ seen.calls) →
    seen.events = [.stored post.id] ∧ ∃ e, seen.answer = some (.error e)
  shared : ∀ friends, ⟨.friendsOf author, some (.ok friends)⟩ ∈ seen.calls →
    ∃ (trials : List Trial) (skipped : List UserId), trials.map Trial.friend ++ skipped = targets post friends ∧
      seen.calls = ⟨.append post, some (.ok ())⟩ :: ⟨.friendsOf author, some (.ok friends)⟩ ::
        trials.flatMap (Trial.calls s post) ∧
      seen.events = .stored post.id :: (trials.map (Trial.event s post) ++
        [.finished post.id (tally .delivered (trials.map (Trial.event s post))) skipped.length])

theorem Trial.kind_event (s : Service) (post : Post) (trial : Trial) :
    (trial.event s post).kind = if (trial.failure? s).isNone then .delivered else .failed := by
  unfold event
  cases trial.failure? s <;> rfl

theorem Trial.skips_event (s : Service) (post : Post) (trial : Trial) : (trial.event s post).skips = 0 := by
  unfold event
  cases trial.failure? s <;> rfl

/-- Each trial is told as a delivery or as a failure, and nothing else is. -/
theorem tally_trials (s : Service) (post : Post) (trials : List Trial) :
    let events := trials.map (Trial.event s post)
    tally .delivered events + tally .failed events = trials.length ∧ tally .stored events = 0 ∧
      tally .degraded events = 0 ∧ skipped events = 0 := by
  induction trials with
  | nil => exact ⟨rfl, rfl, rfl, rfl⟩
  | cons trial trials ih =>
    obtain ⟨each, stored, degraded, skips⟩ := ih
    simp only [List.map_cons, tally_cons, skipped_cons, Trial.kind_event, Trial.skips_event, List.length_cons]
    cases trial.failure? s <;> simp <;> omega

/-- The calls of a trial store nothing and obtain no friends. -/
theorem Trial.calls_apart (trial : Trial) :
    ∀ made ∈ trial.calls s post, made.stored? = none ∧ made.friends? = none := by
  cases trial <;> simp [calls, Made.stored?, Made.friends?]

namespace Tells
variable {friends : List UserId} {calls : List Made} {trials : List Trial} {reach : Reach}

theorem tally_delivered (tells : s.Tells post friends calls trials reach) :
    tally .delivered (trials.map (Trial.event s post)) = reach.delivered.length := by
  rw [tells.delivered, List.length_map, ← List.countP_eq_length_filter, tally, List.countP_map]
  refine List.countP_congr fun trial _ => ?_
  simp only [Function.comp_apply, Trial.kind_event]
  cases trial.failure? s <;> simp

theorem apart (tells : s.Tells post friends calls trials reach) :
    ∀ made ∈ calls, made.stored? = none ∧ made.friends? = none := by
  rw [tells.calls]
  intro made member
  obtain ⟨trial, -, member⟩ := List.mem_flatMap.mp member
  exact trial.calls_apart made member

end Tells

theorem Creation.told {seen : Transcript (Except FeedError PostId)} (creation : s.Creation author post seen) :
    s.CreationTold author post seen := by
  cases creation with
  | foreign other => exact ⟨⟨_, rfl⟩, fun _ => ⟨rfl, _, rfl⟩, nofun, nofun⟩
  | @unstored reply error bad =>
    refine ⟨⟨_, rfl⟩, fun _ => ⟨rfl, _, rfl⟩, ?_, ?_⟩
    · intro stored
      cases List.mem_singleton.mp stored
      cases bad
    · intro friends obtained
      cases List.mem_singleton.mp obtained
  | @unlisted reply error bad =>
    refine ⟨⟨_, rfl⟩, fun unstored => absurd List.mem_cons_self unstored, fun _ _ => ⟨rfl, _, rfl⟩, ?_⟩
    intro friends obtained
    obtain ⟨⟨⟩⟩ | obtained := List.mem_cons.mp obtained
    cases List.mem_singleton.mp obtained
    cases bad
  | @shared friends calls trials reach tells =>
    refine ⟨⟨_, rfl⟩, fun unstored => absurd List.mem_cons_self unstored, ?_, ?_⟩
    · intro _ unlisted
      exact absurd (List.mem_cons_of_mem _ List.mem_cons_self) (unlisted friends)
    · intro others obtained
      obtain ⟨⟨⟩⟩ | obtained := List.mem_cons.mp obtained
      obtain same | obtained := List.mem_cons.mp obtained
      · cases same
        refine ⟨trials, reach.skipped, tells.covers, by rw [tells.calls], by rw [tells.tally_delivered]⟩
      · cases (tells.apart _ obtained).2

/-- A creation has told that its post is stored if it was, and of each friend that its fanout was for that the friend
was tried or is skipped. -/
theorem Creation.tallies {seen : Transcript (Except FeedError PostId)} (creation : s.Creation author post seen) :
    tally .stored seen.events = (appendedIn seen.calls).length ∧
      tally .delivered seen.events + tally .failed seen.events + skipped seen.events =
        aimsIn post seen.calls := by
  cases creation with
  | foreign other => exact ⟨rfl, rfl⟩
  | @unstored reply error bad =>
    obtain _ | e | done := reply
    · exact ⟨rfl, rfl⟩
    · exact ⟨rfl, rfl⟩
    · cases bad
  | @unlisted reply error bad =>
    obtain _ | e | friends := reply
    · exact ⟨rfl, rfl⟩
    · exact ⟨rfl, rfl⟩
    · cases bad
  | @shared friends calls trials reach tells =>
    obtain ⟨each, stored, -, skips⟩ := tally_trials s post trials
    have nothing : calls.filterMap Made.stored? = [] :=
      List.filterMap_eq_nil_iff.mpr fun made member => (tells.apart made member).1
    have nobody : calls.filterMap Made.friends? = [] :=
      List.filterMap_eq_nil_iff.mpr fun made member => (tells.apart made member).2
    have all := congrArg List.length tells.covers
    rw [List.length_append, List.length_map] at all
    constructor
    · have one : appendedIn (⟨.append post, some (.ok ())⟩ :: ⟨.friendsOf author, some (.ok friends)⟩ :: calls) =
          [post] := by
        simp [appendedIn, Made.stored?, List.filterMap_cons, nothing]
      simp [one, tally_cons, tally_append, stored, Event.kind]
    · have aims : aimsIn post (⟨.append post, some (.ok ())⟩ :: ⟨.friendsOf author, some (.ok friends)⟩ :: calls) =
          (targets post friends).length := by
        simp [aimsIn, Made.friends?, List.filterMap_cons, nobody]
      simp [aims, tally_cons, tally_append, skipped_cons, skipped_append, skips, Event.kind, Event.skips]
      omega

theorem Creation.tally_degraded {seen : Transcript (Except FeedError PostId)}
    (creation : s.Creation author post seen) : tally .degraded seen.events = 0 := by
  cases creation with
  | foreign | unstored | unlisted => rfl
  | @shared friends calls trials reach tells =>
    obtain ⟨-, -, degraded, -⟩ := tally_trials s post trials
    simp [tally_cons, tally_append, degraded, Event.kind]

/-! ### Pages -/

/-- What a page tells. -/
structure PageTold (user : UserId) (seen : Transcript (Except FeedError FeedPage)) : Prop where
  answer : ∃ result, seen.answer = some result
  served : ∀ page, seen.answer = some (.ok page) → ∃ before,
    seen.events = before ++ [.served user page.source page.posts.length] ∧
      ∀ event ∈ before, ∀ source, event.kind ≠ .served source
  failed : ∀ e, seen.answer = some (.error e) → ∀ event ∈ seen.events, ∀ source, event.kind ≠ .served source

namespace Paging
variable {seen : Transcript (Except FeedError FeedPage)} {result : Except FeedError FeedPage}

theorem told (paging : Paging user seen result) : PageTold user seen := by
  have unserved : ∀ event ∈ if lost seen.calls then [Event.degraded user] else [], ∀ source,
      event.kind ≠ .served source := by
    intro event member source
    split at member
    · rw [List.mem_singleton.mp member]
      nofun
    · cases member
  refine ⟨⟨result, paging.answer⟩, ?_, ?_⟩
  · intro page answered
    obtain rfl : result = .ok page := Option.some.inj (paging.answer.symm.trans answered)
    exact ⟨_, paging.events, unserved⟩
  · intro e answered
    obtain rfl : result = .error e := Option.some.inj (paging.answer.symm.trans answered)
    rwa [paging.events, heard, List.append_nil]

/-- A page tells nothing of posts and fanouts. -/
theorem tallies (paging : Paging user seen result) :
    tally .stored seen.events = 0 ∧
      tally .delivered seen.events + tally .failed seen.events + skipped seen.events = 0 := by
  rw [paging.events]
  cases lost seen.calls <;> cases result <;> exact ⟨rfl, rfl⟩

/-- A page that the cache has not failed is not told as degraded. -/
theorem tally_degraded (paging : Paging user seen result) (fine : lost seen.calls = false) :
    tally .degraded seen.events = 0 := by
  rw [paging.events, fine]
  cases result <;> rfl

/-- A page that the cache has failed is told as degraded, and is from the store unless another call has failed too. -/
theorem degraded (paging : Paging user seen result) (bad : lost seen.calls = true) :
    (∃ posts, seen.answer = some (.ok ⟨posts, .store⟩) ∧
      seen.events = [.degraded user, .served user .store posts.length]) ∨
    ∃ e, seen.answer = some (.error e) ∧ seen.events = [.degraded user] ∧
      ∃ made ∈ seen.calls, made.call.toCache = false ∧ made.succeeded = false := by
  have events := paging.events
  rw [if_pos bad] at events
  cases result with
  | error e => exact .inr ⟨e, paging.answer, events, paging.failed bad e rfl⟩
  | ok page =>
    obtain ⟨posts, source⟩ := page
    obtain rfl : source = .store := paging.source bad _ rfl
    exact .inl ⟨posts, paging.answer, events⟩

end Paging

/-! ### Runs -/

end Service

/-- The dealing is seen as one of the service. -/
def Dealing.Genuine (s : Service) : Dealing → Prop
  | ⟨.create author post, seen⟩ => s.Creation author post seen
  | ⟨.page user _, seen⟩ =>
    (∃ result, Service.Paging user seen result) ∧ ∀ made ∈ seen.calls, made.call.Reads

namespace Service
variable {s : Service}

theorem dealings_genuine (s : Service) (replies : Replies) (demands : List Demand) (earlier : List Made) :
    (s.dealings replies earlier demands).map (·.demand) = demands ∧
      ∀ dealing ∈ s.dealings replies earlier demands, dealing.Genuine s := by
  induction demands generalizing earlier with
  | nil => exact ⟨rfl, List.forall_mem_nil _⟩
  | cons demand demands ih =>
    obtain ⟨all, later⟩ := ih (earlier ++ ((demand.task s).transcript replies earlier).calls)
    refine ⟨congrArg (demand :: ·) all, List.forall_mem_cons.mpr ⟨?_, later⟩⟩
    cases demand with
    | create author post => exact s.transcript_createPost author post replies earlier
    | page user window =>
      have reads := (s.reads_feedPage user window).transcript replies earlier
      exact ⟨s.transcript_feedPage user window replies earlier, reads⟩

end Service

namespace Dealing
variable {s : Service}

theorem Genuine.tallies {dealing : Dealing} (genuine : dealing.Genuine s) :
    tally .stored dealing.seen.events = (appendedIn dealing.seen.calls).length ∧
      tally .delivered dealing.seen.events + tally .failed dealing.seen.events + skipped dealing.seen.events =
        dealing.aims := by
  obtain ⟨demand, seen⟩ := dealing
  cases demand with
  | create author post => exact Service.Creation.tallies genuine
  | page user window =>
    obtain ⟨⟨result, paging⟩, reads⟩ := genuine
    have nothing : seen.calls.filterMap Made.stored? = [] :=
      List.filterMap_eq_nil_iff.mpr fun made member => (reads made member).storesNothing.unstored
    rw [appendedIn, nothing]
    exact paging.tallies

/-- Where a dealing is told as degraded, it is told as served from the store too, or it is denied. -/
theorem Genuine.tally_degraded {dealing : Dealing} (genuine : dealing.Genuine s) :
    tally .degraded dealing.seen.events ≤
      tally (.served .store) dealing.seen.events + if dealing.denied then 1 else 0 := by
  obtain ⟨demand, seen⟩ := dealing
  cases demand with
  | create author post =>
    have silent := Service.Creation.tally_degraded genuine
    exact silent.trans_le (Nat.zero_le _)
  | page user window =>
    obtain ⟨⟨result, paging⟩, -⟩ := genuine
    cases bad : Service.lost seen.calls with
    | false =>
      change tally .degraded seen.events ≤ _
      rw [paging.tally_degraded bad]
      exact Nat.zero_le _
    | true =>
      obtain ⟨posts, answered, events⟩ | ⟨e, answered, events, -⟩ := paging.degraded bad
      · change tally .degraded seen.events ≤ tally (.served .store) seen.events + _
        rw [events]
        exact Nat.le_add_right 1 _
      · have shut : denied ⟨.page user window, seen⟩ = true := by simp [denied, bad, answered]
        change tally .degraded seen.events ≤ _
        rw [events, if_pos shut]
        exact Nat.le_add_left 1 _

/-- Over dealings the tallies add up. -/
theorem tallies {dealings : List Dealing} (genuine : ∀ dealing ∈ dealings, dealing.Genuine s) :
    tally .stored (events dealings) = (appendedIn (calls dealings)).length ∧
      tally .delivered (events dealings) + tally .failed (events dealings) + skipped (events dealings) =
        (dealings.map aims).sum ∧
      tally .degraded (events dealings) ≤ tally (.served .store) (events dealings) + dealings.countP denied := by
  induction dealings with
  | nil => exact ⟨rfl, rfl, Nat.le_refl _⟩
  | cons dealing dealings ih =>
    obtain ⟨first, later⟩ := List.forall_mem_cons.mp genuine
    obtain ⟨stored, tried, degraded⟩ := ih later
    obtain ⟨stored', tried'⟩ := first.tallies
    have degraded' := first.tally_degraded
    have events_cons : events (dealing :: dealings) = dealing.seen.events ++ events dealings := List.flatMap_cons
    have calls_cons : calls (dealing :: dealings) = dealing.seen.calls ++ calls dealings := List.flatMap_cons
    have appended : (appendedIn (calls (dealing :: dealings))).length =
        (appendedIn dealing.seen.calls).length + (appendedIn (calls dealings)).length := by
      simp [calls_cons, appendedIn, Nat.add_comm]
    simp only [appended, events_cons, tally_append, skipped_append, List.map_cons, List.sum_cons, List.countP_cons]
    refine ⟨?_, ?_, ?_⟩ <;> omega

end Dealing

namespace Service

/-- The events of any run are a ledger of it. A creation tells nothing unless its post is stored, and then tells it once
and first. It goes on if its author's friends are obtained: with one event for each friend that was tried, in order,
and with the numbers of those delivered to and those left out. A page that was found is told once, at the end; otherwise
none is told. So deliveries, failures and reported skips are as many as the friends that the fanouts were for, and posts
are told as stored as often as they were. -/
theorem ledger (s : Service) (replies : Replies) (demands : List Demand) :
    let dealings := s.dealings replies [] demands
    dealings.map (·.demand) = demands ∧
    (∀ author post seen, ⟨.create author post, seen⟩ ∈ dealings → s.CreationTold author post seen) ∧
    (∀ user window seen, ⟨.page user window, seen⟩ ∈ dealings → PageTold user seen) ∧
    tally .delivered (Dealing.events dealings) + tally .failed (Dealing.events dealings) +
      skipped (Dealing.events dealings) = (dealings.map Dealing.aims).sum ∧
    tally .stored (Dealing.events dealings) = (appendedIn (Dealing.calls dealings)).length := by
  intro dealings
  obtain ⟨all, genuine⟩ := s.dealings_genuine replies demands []
  obtain ⟨stored, tried, -⟩ := Dealing.tallies genuine
  refine ⟨all, ?_, ?_, tried, stored⟩
  · intro author post seen member
    exact Creation.told (genuine _ member)
  · intro user window seen member
    obtain ⟨⟨result, paging⟩, -⟩ := genuine _ member
    exact paging.told

/-- A read is told as degraded, first and once, if the cache has failed it, and not otherwise. It ends with a page from
the store, which is told next, or with an error after the store or the friend graph has failed as well. So over any run
those told as degraded are no more than those served from the store and those denied. -/
theorem degraded_or_denied (s : Service) (replies : Replies) (demands : List Demand) :
    let dealings := s.dealings replies [] demands
    (∀ user window seen, ⟨.page user window, seen⟩ ∈ dealings →
      (lost seen.calls = false → tally .degraded seen.events = 0) ∧
      (lost seen.calls = true →
        (∃ posts, seen.answer = some (.ok ⟨posts, .store⟩) ∧
          seen.events = [.degraded user, .served user .store posts.length]) ∨
        ∃ e, seen.answer = some (.error e) ∧ seen.events = [.degraded user] ∧
          ∃ made ∈ seen.calls, made.call.toCache = false ∧ made.succeeded = false)) ∧
    tally .degraded (Dealing.events dealings) ≤
      tally (.served .store) (Dealing.events dealings) + dealings.countP Dealing.denied := by
  intro dealings
  obtain ⟨-, genuine⟩ := s.dealings_genuine replies demands []
  obtain ⟨-, -, degraded⟩ := Dealing.tallies genuine
  refine ⟨?_, degraded⟩
  intro user window seen member
  obtain ⟨⟨result, paging⟩, -⟩ := genuine _ member
  exact ⟨paging.tally_degraded, paging.degraded⟩

/-- A read that the cache and the friend graph have both failed is told as degraded, and nothing is served. -/
theorem degraded_unserved :
    ¬∀ (s : Service) (replies : Replies) (demands : List Demand),
      tally .degraded (Dealing.events (s.dealings replies [] demands)) ≤
        tally (.served .store) (Dealing.events (s.dealings replies [] demands)) := by
  intro all
  have none := all {} (fun _ _ => none) [.page (.ofNat 7) (.of 5 0)]
  exact absurd none (by decide)

end Service
end FeedFanout
