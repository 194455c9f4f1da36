import FeedFanout.Proofs.Pages
import FeedFanout.Proofs.Truncation

/-!
Transcripts. A task is answered by collaborators of any kind: each call gets any reply, or none in time, and the reply
may depend on all calls before it (`Replies`). What is seen of the task is its transcript (`Task.transcript`). A
creation tells that its post is stored, then one event for each trial of its fanout, and then the end of it
(`Service.transcript_createPost`). A page tells that the cache has failed, if it has, and then what it has found
(`Service.transcript_feedPage`).
-/
namespace FeedFanout

/-- What a call is answered after those made before it, if an answer comes in time. -/
abbrev Replies := List Made → (call : Call) → Option call.Reply

/-- All that is seen of a task. -/
structure Transcript (α : Type) where
  calls : List Made
  events : List Event
  /-- Absent if the task waits for ever. -/
  answer : Option α

/-- A transcript with calls and events in front of it. -/
def Transcript.behind {α : Type} (seen : Transcript α) (calls : List Made) (events : List Event) : Transcript α :=
  ⟨calls ++ seen.calls, events ++ seen.events, seen.answer⟩

theorem Transcript.behind_behind {α : Type} (seen : Transcript α) (first second : List Made) (told later : List Event) :
    (seen.behind second later).behind first told = seen.behind (first ++ second) (told ++ later) := by
  simp [behind]

namespace Task
variable {α β : Type} {replies : Replies} {earlier : List Made}

/-- What is seen of a task that begins when these calls were made. -/
def transcript (replies : Replies) : Task α → List Made → Transcript α
  | done value, _ => ⟨[], [], some value⟩
  | tell (.event e) next, earlier => (next.transcript replies earlier).behind [] [e]
  | tell (.remark _) next, earlier => next.transcript replies earlier
  | ask call next, earlier =>
    match replies earlier call with
    | some reply => ((next reply).transcript replies (earlier ++ [⟨call, some reply⟩])).behind [⟨call, some reply⟩] []
    | none => ⟨[⟨call, none⟩], [], none⟩
  | askWithin _ call next, earlier =>
    let reply := replies earlier call
    ((next reply).transcript replies (earlier ++ [⟨call, reply⟩])).behind [⟨call, reply⟩] []

/-- A task behind one that came to an answer. -/
theorem transcript_bind {t : Task α} {seen : Transcript α} {value : α} (begun : t.transcript replies earlier = seen)
    (answered : seen.answer = some value) (f : α → Task β) :
    (t.bind f).transcript replies earlier =
      ((f value).transcript replies (earlier ++ seen.calls)).behind seen.calls seen.events := by
  subst begun
  induction t generalizing earlier with
  | done held =>
    cases answered
    rw [done_bind, transcript, List.append_nil]
    rfl
  | tell notice next ih =>
    cases notice with
    | remark r => exact ih answered
    | event e =>
      rw [bind, transcript, ih answered, Transcript.behind_behind]
      rfl
  | ask call next ih =>
    rw [transcript] at answered
    simp only [bind, transcript]
    cases replied : replies earlier call with
    | none =>
      rw [replied] at answered
      cases answered
    | some reply =>
      rw [replied] at answered
      simp only [ih reply answered, Transcript.behind, List.append_assoc]
  | askWithin limit call next ih =>
    simp only [bind, transcript, ih _ answered, Transcript.behind, List.append_assoc]

theorem Remarks.transcript {t : Task α} {value : α} (remarks : t.Remarks value) (replies : Replies)
    (earlier : List Made) : t.transcript replies earlier = ⟨[], [], some value⟩ := by
  induction remarks with
  | done value => rfl
  | remark r later ih => exact ih

/-- A task that keeps to some kinds of calls is seen to. -/
theorem Within.transcript {calls : Call → Prop} {answers : α → Prop} {t : Task α} (within : t.Within calls answers)
    (replies : Replies) (earlier : List Made) :
    ∀ made ∈ (t.transcript replies earlier).calls, calls made.call := by
  induction t generalizing earlier with
  | done value => exact List.forall_mem_nil _
  | tell notice next ih => cases notice <;> exact ih within earlier
  | ask call next ih =>
    obtain ⟨first, later⟩ := within
    rw [Task.transcript]
    cases replies earlier call with
    | none => exact List.forall_mem_singleton.mpr first
    | some reply => exact List.forall_mem_cons.mpr ⟨first, ih reply (later reply) _⟩
  | askWithin limit call next ih =>
    obtain ⟨first, later⟩ := within
    exact List.forall_mem_cons.mpr ⟨first, ih _ (later _) _⟩

end Task

namespace Service
variable {s : Service} {post : Post} {user : UserId} {window : Window}

/-! ### Creations -/

/-- What is told of a friend who was tried. -/
def Trial.event (s : Service) (post : Post) (trial : Trial) : Event :=
  match trial.failure? s with
  | none => .delivered post.id trial.friend
  | some failure => .failed post.id trial.friend failure.step

theorem transcript_deliver (s : Service) (post : Post) (friend : UserId) (replies : Replies) (earlier : List Made) :
    ∃ trial : Trial, trial.friend = friend ∧
      (s.deliver post (.snapshot post) friend).transcript replies earlier =
        ⟨trial.calls s post, [], some (trial.failure? s)⟩ := by
  change ∃ trial : Trial, _ ∧ Task.transcript replies (.askWithin s.limit (.push friend (.snapshot post) s.capacity) _)
    earlier = _
  rw [Task.transcript]
  generalize replies earlier (.push friend (.snapshot post) s.capacity) = reply
  obtain _ | e | done := reply
  · exact ⟨.unwritten friend none, rfl, rfl⟩
  · exact ⟨.unwritten friend (some e), rfl, rfl⟩
  change ∃ trial : Trial, _ ∧ (Task.transcript replies (.askWithin s.limit (.publish friend post) _) _).behind _ _ = _
  rw [Task.transcript]
  generalize replies _ (.publish friend post) = reply
  obtain _ | e | done := reply
  · exact ⟨.unheard friend none, rfl, rfl⟩
  · exact ⟨.unheard friend (some e), rfl, rfl⟩
  · exact ⟨.reached friend, rfl, rfl⟩

/-- A fanout tells one event of each friend that it has tried. -/
theorem transcript_reach (s : Service) (post : Post) (friends : List UserId) (replies : Replies) (earlier : List Made) :
    ∃ calls trials reach, s.Tells post friends calls trials reach ∧
      (s.reach post (.snapshot post) friends).transcript replies earlier =
        ⟨calls, trials.map (Trial.event s post), some reach⟩ := by
  induction friends generalizing earlier with
  | nil => exact ⟨[], [], ⟨[], [], []⟩, ⟨rfl, rfl, rfl, rfl⟩, rfl⟩
  | cons friend friends ih =>
    obtain ⟨trial, rfl, first⟩ := s.transcript_deliver post friend replies earlier
    obtain ⟨calls, trials, reach, tells, later⟩ := ih (earlier ++ trial.calls s post)
    rw [reach_cons, Task.transcript_bind first rfl]
    have more := tells.cons trial
    cases failure : trial.failure? s with
    | none =>
      rw [failure] at more
      refine ⟨_, _, _, more, ?_⟩
      rw [tried, Task.transcript, Task.transcript_bind later rfl]
      simp [Task.transcript, Transcript.behind, Trial.event, failure]
    | some failed =>
      rw [tried, Task.transcript, Task.transcript, passOver]
      cases policy : s.policy with
      | failFast =>
        refine ⟨_, _, _, .stop failure friends, ?_⟩
        simp [Task.transcript, Transcript.behind, Trial.event, failure]
      | bestEffort =>
        rw [failure] at more
        refine ⟨_, _, _, more, ?_⟩
        dsimp only
        rw [Task.transcript_bind later rfl]
        simp [Task.transcript, Transcript.behind, Trial.event, failure]

/-- What there is to see of a creation: that nothing was tried, or that the post was not stored, or that its author's
friends were not obtained, or a fanout. -/
inductive Creation (s : Service) (author : UserId) (post : Post) : Transcript (Except FeedError PostId) → Prop
  | foreign (other : post.author ≠ author) : Creation s author post ⟨[], [], some (.error (mismatch author post))⟩
  | unstored {reply : Option (Except StoreError Unit)} {error : FeedError}
      (bad : s.appendError post reply = some error) :
      Creation s author post ⟨[⟨.append post, reply⟩], [], some (.error error)⟩
  | unlisted {reply : Option (Except StoreError (List UserId))} {error : FeedError}
      (bad : s.friendsError author reply = some error) :
      Creation s author post
        ⟨[⟨.append post, some (.ok ())⟩, ⟨.friendsOf author, reply⟩], [.stored post.id], some (.error error)⟩
  | shared {friends : List UserId} {calls : List Made} {trials : List Trial} {reach : Reach}
      (tells : s.Tells post (targets post friends) calls trials reach) :
      Creation s author post
        ⟨⟨.append post, some (.ok ())⟩ :: ⟨.friendsOf author, some (.ok friends)⟩ :: calls,
          .stored post.id :: (trials.map (Trial.event s post) ++
            [.finished post.id reach.delivered.length reach.skipped.length]),
          some (reach.answer post)⟩

/-- What follows when a fanout is over. -/
def concluded (post : Post) : Except FeedError Fanout.Outcome → Task (Except FeedError PostId)
  | .error e => .done (.error e)
  | .ok (.success delivered) => .tell (.remark (.fanoutComplete post.id delivered.length)) (.done (.ok post.id))
  | .ok (.incomplete report) =>
    .tell (.remark (.fanoutIncomplete post.id report.delivered.length report.failures.length report.skipped.length))
      (.done (.error (.partialFanout report)))

theorem share_eq (s : Service) (post : Post) (friends : List UserId) :
    s.share post friends = (s.fanout post friends).bind (concluded post) := by
  refine congrArg (s.fanout post friends).bind (funext fun outcome => ?_)
  obtain _ | _ | _ := outcome <;> rfl

theorem remarks_concluded (post : Post) (reach : Reach) :
    (concluded post (.ok (reach.outcome post))).Remarks (reach.answer post) := by
  unfold Reach.outcome Reach.answer
  by_cases fine : reach.failures.isEmpty = true
  · rw [if_pos fine, if_pos fine]
    exact .remark _ (.done _)
  · rw [if_neg fine, if_neg fine]
    exact .remark _ (.done _)

theorem transcript_share (s : Service) (post : Post) (friends : List UserId) (replies : Replies) (earlier : List Made) :
    ∃ calls trials reach, s.Tells post (targets post friends) calls trials reach ∧
      (s.share post friends).transcript replies earlier =
        ⟨calls, trials.map (Trial.event s post) ++
          [.finished post.id reach.delivered.length reach.skipped.length], some (reach.answer post)⟩ := by
  obtain ⟨calls, trials, reach, tells, seen⟩ := s.transcript_reach post (targets post friends) replies earlier
  refine ⟨calls, trials, reach, tells, ?_⟩
  have fanned : (s.fanout post friends).transcript replies earlier =
      ⟨calls ++ [], trials.map (Trial.event s post) ++ [.finished post.id reach.delivered.length reach.skipped.length],
        some (.ok (reach.outcome post))⟩ := by
    rw [fanout_eq]
    exact Task.transcript_bind seen rfl _
  rw [share_eq, Task.transcript_bind fanned rfl, (remarks_concluded post reach).transcript]
  simp [Transcript.behind]

theorem transcript_createPost (s : Service) (author : UserId) (post : Post) (replies : Replies) (earlier : List Made) :
    s.Creation author post ((s.createPost author post).transcript replies earlier) := by
  by_cases mine : post.author = author
  · subst mine
    rw [createPost_eq, Task.transcript]
    generalize replies earlier (.append post) = reply
    obtain _ | e | done := reply
    · exact .unstored rfl
    · exact .unstored rfl
    change s.Creation _ _ (((s.spread post.author post).transcript replies _ |>.behind [] _).behind _ _)
    rw [spread_eq, Task.transcript]
    generalize replies _ (.friendsOf post.author) = reply
    obtain _ | e | friends := reply
    · exact .unlisted rfl
    · exact .unlisted rfl
    rw [shared]
    obtain ⟨calls, trials, reach, tells, seen⟩ := s.transcript_share post friends replies
      (earlier ++ [⟨.append post, some (.ok done)⟩] ++ [⟨.friendsOf post.author, some (.ok friends)⟩])
    rw [seen]
    exact .shared tells
  · rw [createPost, if_pos mine]
    exact .foreign mine

/-! ### Pages -/

/-- A call to the cache has failed. -/
def lost (calls : List Made) : Bool := calls.any fun made => made.call.toCache && !made.succeeded

/-- A page that is not from the cache. Without an answer one of the calls has failed. -/
structure Looked (calls : List Made) (result : Except FeedError FeedPage) : Prop where
  apart : ∀ made ∈ calls, made.call.toCache = false
  source : ∀ page, result = .ok page → page.source = .store
  failed : ∀ e, result = .error e → ∃ made ∈ calls, made.succeeded = false

theorem Looked.refused (before : List Made) {last : Made} (apart : ∀ made ∈ before ++ [last], made.call.toCache = false)
    (bad : last.succeeded = false) (e : FeedError) : Looked (before ++ [last]) (.error e) where
  apart := apart
  source := nofun
  failed _ _ := ⟨last, List.mem_append_right _ (List.mem_singleton_self _), bad⟩

theorem transcript_readStored (s : Service) (user : UserId) (window : Window) (replies : Replies)
    (earlier : List Made) :
    ∃ calls result, Looked calls result ∧
      (s.readStored user window).transcript replies earlier = ⟨calls, heard user result, some result⟩ := by
  rw [readStored_eq, Task.transcript]
  generalize replies earlier (.friendsOf user) = reply
  have asked (reply : Option (Except StoreError (List UserId))) :
      ∀ made ∈ ([⟨.friendsOf user, reply⟩] : List Made), made.call.toCache = false :=
    List.forall_mem_singleton.mpr rfl
  obtain _ | e | friends := reply
  · exact ⟨_, .error _, .refused [] (asked none) rfl _, rfl⟩
  · exact ⟨_, .error _, .refused [] (asked (some (.error e))) rfl _, rfl⟩
  rw [befriended, Task.transcript]
  generalize replies _ (.query user friends window) = reply
  have asked (reply : Option (Except StoreError (List Post))) :
      ∀ made ∈ ([⟨.friendsOf user, some (.ok friends)⟩, ⟨.query user friends window, reply⟩] : List Made),
        made.call.toCache = false :=
    List.forall_mem_cons.mpr ⟨rfl, List.forall_mem_singleton.mpr rfl⟩
  obtain _ | e | posts := reply
  · exact ⟨_, .error _, .refused [_] (asked none) rfl _, rfl⟩
  · exact ⟨_, .error _, .refused [_] (asked (some (.error e))) rfl _, rfl⟩
  · refine ⟨_, .ok ⟨posts, .store⟩, ⟨asked (some (.ok posts)), ?_, ?_⟩, rfl⟩
    · rintro _ ⟨⟩
      rfl
    · rintro _ ⟨⟩

/-- What there is to see of a page: first that the cache has failed, if it has, and then what was found. Where the cache
has failed, that is what the store has. -/
structure Paging (user : UserId) (seen : Transcript (Except FeedError FeedPage)) (result : Except FeedError FeedPage) :
    Prop where
  answer : seen.answer = some result
  events : seen.events = (if lost seen.calls then [.degraded user] else []) ++ heard user result
  source : lost seen.calls = true → ∀ page, result = .ok page → page.source = .store
  failed : lost seen.calls = true → ∀ e, result = .error e →
    ∃ made ∈ seen.calls, made.call.toCache = false ∧ made.succeeded = false

/-- A page that the cache has not failed. -/
theorem paging_kept (calls : List Made) (kept : lost calls = false) (result : Except FeedError FeedPage) :
    Paging user ⟨calls, heard user result, some result⟩ result :=
  ⟨rfl, by simp [kept], by simp [kept], by simp [kept]⟩

/-- The store is asked where the cache has no feed, or is not asked. -/
theorem Looked.paging {calls : List Made} {result : Except FeedError FeedPage} (looked : Looked calls result)
    (before : List Made) (kept : lost before = false) :
    Paging user ⟨before ++ calls, heard user result, some result⟩ result := by
  have fine : lost calls = false := List.any_eq_false.mpr fun made member => by simp [looked.apart made member]
  refine paging_kept _ ?_ result
  rw [lost, List.any_append]
  exact Bool.or_eq_false_iff.mpr ⟨kept, fine⟩

/-- The store is asked because the cache has failed. -/
theorem Looked.degraded {calls : List Made} {result : Except FeedError FeedPage} (looked : Looked calls result)
    {before : List Made} (bad : lost before = true) :
    Paging user ⟨before ++ calls, .degraded user :: heard user result, some result⟩ result := by
  have failed : lost (before ++ calls) = true := by
    rw [lost, List.any_append]
    exact Bool.or_eq_true_iff.mpr (.inl bad)
  refine ⟨rfl, by simp [failed], fun _ => looked.source, fun _ e same => ?_⟩
  obtain ⟨made, member, bad⟩ := looked.failed e same
  exact ⟨made, List.mem_append_right _ member, looked.apart made member, bad⟩

/-- A page whose cache has failed in one of the calls before. -/
theorem paging_degraded (s : Service) (user : UserId) (window : Window) (reason : String) (replies : Replies)
    (earlier : List Made) {before : List Made} (bad : lost before = true) :
    ∃ result, Paging user (((s.degraded user window reason).transcript replies earlier).behind before []) result := by
  obtain ⟨calls, result, looked, seen⟩ := s.transcript_readStored user window replies earlier
  rw [degraded, Task.transcript, Task.transcript, seen]
  exact ⟨result, looked.degraded bad⟩

theorem transcript_feedPage (s : Service) (user : UserId) (window : Window) (replies : Replies) (earlier : List Made) :
    ∃ result, Paging user ((s.feedPage user window).transcript replies earlier) result := by
  by_cases fits : window.fits s.capacity = true
  · rw [feedPage_eq fits, Task.transcript]
    generalize replies earlier (.exists user) = reply
    obtain _ | e | _ | _ := reply
    · exact s.paging_degraded user window _ replies _ rfl
    · exact s.paging_degraded user window _ replies _ rfl
    · obtain ⟨calls, result, looked, seen⟩ :=
        s.transcript_readStored user window replies (earlier ++ [⟨.exists user, some (.ok false)⟩])
      rw [found, seen]
      exact ⟨result, looked.paging _ rfl⟩
    rw [found, Task.transcript, Transcript.behind_behind]
    generalize replies _ (.read user window.start window.limit) = reply
    obtain _ | e | entries := reply
    · exact s.paging_degraded user window _ replies _ rfl
    · exact s.paging_degraded user window _ replies _ rfl
    rw [read]
    cases decodeAll entries with
    | error e => exact ⟨_, paging_kept [_, _] rfl (.error (.corruptEntry e))⟩
    | ok posts => exact ⟨_, paging_kept [_, _] rfl (.ok ⟨posts, .cache⟩)⟩
  · obtain ⟨calls, result, looked, seen⟩ := s.transcript_readStored user window replies earlier
    rw [feedPage, if_neg fits, seen]
    exact ⟨result, looked.paging [] rfl⟩

end Service
end FeedFanout
