import FeedFanout.Proofs.Pages
import FeedFanout.Proofs.Report

/-!
Pages without the cache. When the cache fails or is late, a page is that of a user without a cached feed, and the
failure is told once (`Service.feedPage_degrades`).
-/
namespace FeedFanout

/-- The same fates, except that the cache always serves. -/
def withCache (fate : Call → Fate) (call : Call) : Fate := if call.toCache then .served else fate call

/-- The world without a user's cached feed. -/
def World.feedless (w : World) (user : UserId) : World := { w with cache := ⟨w.cache.feeds.erase user⟩ }

theorem World.has_feedless (w : World) (user : UserId) : (w.feedless user).cache.has user = false := by
  simp [feedless, FeedCache.has, FeedCache.feed?, Table.get?_erase]

/-- The error says that the cache was too late, or it comes of a cache that is not available. -/
def FeedError.BlamesCache : FeedError → Prop
  | .timeout operation _ => operation.dependency = .feedCache
  | .corruptEntry (.unavailable _) => True
  | _ => False

/-- The answer is not an error that blames the cache. -/
def Unblamed {α : Type} (answer : Except FeedError α) : Prop := ∀ e, answer = .error e → ¬e.BlamesCache

theorem Unblamed.ok {α : Type} (value : α) : Unblamed (.ok value) := nofun

theorem Unblamed.error {α : Type} {e : FeedError} (other : ¬e.BlamesCache) :
    Unblamed (.error e : Except FeedError α) := by
  rintro _ ⟨⟩
  exact other

namespace Service
variable {s : Service} {user : UserId} {window : Window} {fate : Call → Fate} {w : World}

theorem facing_readStored (s : Service) (user : UserId) (window : Window) (fate : Call → Fate) (w : World) :
    Uncached user (s.lookup user window fate w w) ((s.readStored user window).facing fate w) :=
  s.amid_readStored user window fate (fun _ => id) w

/-- A failure of the cache is told, and the page comes from the store. -/
theorem facing_degraded (s : Service) (user : UserId) (window : Window) (reason : String) (fate : Call → Fate)
    (w : World) :
    ((s.degraded user window reason).facing fate w).answer = some (s.lookup user window fate w w) ∧
      ((s.degraded user window reason).facing fate w).events =
        .degraded user :: heard user (s.lookup user window fate w w) := by
  have stored := s.facing_readStored user window fate w
  exact ⟨stored.answer, congrArg (Event.degraded user :: ·) stored.events⟩

theorem facing_lost (fits : window.fits s.capacity = true)
    (lost : ∃ made ∈ ((s.feedPage user window).facing fate w).calls,
      made.call.toCache = true ∧ made.succeeded = false) :
    ((s.feedPage user window).facing fate w).answer = some (s.lookup user window fate w w) ∧
      ((s.feedPage user window).facing fate w).events =
        .degraded user :: heard user (s.lookup user window fate w w) := by
  obtain ⟨made, member, cache, failed⟩ := lost
  rw [Task.facing, feedPage_eq fits, Task.amid_reads (.exists user) trivial] at member ⊢
  change made ∈ _ :: _ at member
  generalize (World.meet _ (.exists user) (fate (.exists user))).1 = reply at member ⊢
  obtain _ | e | _ | _ := reply
  · exact s.facing_degraded user window (FeedError.timeout .exists s.limit).message fate w
  · exact s.facing_degraded user window e.message fate w
  · rcases List.mem_cons.mp member with rfl | later
    · cases failed
    · rw [(s.facing_readStored user window fate w).calls made later] at cache
      cases cache
  rw [found, Task.amid_reads (.read user window.start window.limit) trivial] at member ⊢
  rcases List.mem_cons.mp member with rfl | member
  · cases failed
  change made ∈ _ :: _ at member
  generalize (World.meet _ (.read user window.start window.limit)
    (fate (.read user window.start window.limit))).1 = reply at member ⊢
  obtain _ | e | entries := reply
  · exact s.facing_degraded user window (FeedError.timeout .read s.limit).message fate w
  · exact s.facing_degraded user window e.message fate w
  · rcases List.mem_cons.mp member with rfl | later
    · cases failed
    · rw [read] at later
      cases decoded : decodeAll entries with
      | error e =>
        rw [decoded] at later
        cases later
      | ok posts =>
        rw [decoded] at later
        cases later

/-- A page of a user without a cached feed. -/
theorem facing_absent (s : Service) (user : UserId) (window : Window) (fate : Call → Fate) (w : World) :
    let absent := (s.feedPage user window).facing (withCache fate) (w.feedless user)
    absent.answer = some (s.lookup user window fate w w) ∧
      absent.events = heard user (s.lookup user window fate w w) := by
  intro absent
  have stored := s.facing_readStored user window (withCache fate) (w.feedless user)
  have same : s.lookup user window (withCache fate) (w.feedless user) (w.feedless user) =
      s.lookup user window fate w w :=
    lookup_congr rfl rfl fun call other => if_neg (by simp [other])
  rw [same] at stored
  by_cases fits : window.fits s.capacity = true
  · have empty : (World.passing (fun _ => id) 1 (w.feedless user)).cache.has user = false := w.has_feedless user
    have absent_eq : absent = _ := amid_absent fits (fun call cache => if_pos cache) empty
    rw [absent_eq]
    exact ⟨stored.answer, stored.events⟩
  · have absent_eq : absent = (s.readStored user window).facing (withCache fate) (w.feedless user) := by
      simp only [absent, feedPage, if_neg fits]
    rw [absent_eq]
    exact ⟨stored.answer, stored.events⟩

/-! ### Errors that name the cache -/

theorem decodeAll_codec {entries : List FeedEntry} {e : CacheError} (bad : decodeAll entries = .error e) :
    ∃ fault, e = .codec fault := by
  induction entries with
  | nil => cases bad
  | cons entry entries ih =>
    unfold decodeAll at bad
    split at bad
    · next error decoded =>
      cases bad
      unfold FeedEntry.decode at decoded
      cases fault : Post.decode entry.bytes with
      | error fault =>
        rw [fault] at decoded
        cases decoded
        exact ⟨_, rfl⟩
      | ok post =>
        rw [fault] at decoded
        cases decoded
    · split at bad
      · cases bad
        exact ih ‹_›
      · cases bad

theorem unblamed_readStored (s : Service) (user : UserId) (window : Window) :
    (s.readStored user window).Within (fun _ => True) Unblamed := by
  rw [readStored_eq]
  refine ⟨trivial, ?_⟩
  rintro (_ | e | friends)
  · exact Unblamed.error nofun
  · exact Unblamed.error id
  refine ⟨trivial, ?_⟩
  rintro (_ | e | posts)
  · exact Unblamed.error nofun
  · exact Unblamed.error id
  · exact Unblamed.ok _

theorem unblamed_feedPage (s : Service) (user : UserId) (window : Window) :
    (s.feedPage user window).Within (fun _ => True) Unblamed := by
  by_cases fits : window.fits s.capacity = true
  · rw [feedPage_eq fits]
    refine ⟨trivial, ?_⟩
    rintro (_ | e | _ | _)
    · exact s.unblamed_readStored user window
    · exact s.unblamed_readStored user window
    · exact s.unblamed_readStored user window
    refine ⟨trivial, ?_⟩
    rintro (_ | e | entries)
    · exact s.unblamed_readStored user window
    · exact s.unblamed_readStored user window
    rw [read]
    cases decoded : decodeAll entries with
    | error e =>
      obtain ⟨fault, rfl⟩ := decodeAll_codec decoded
      exact Unblamed.error id
    | ok posts => exact Unblamed.ok _
  · rw [feedPage, if_neg fits]
    exact s.unblamed_readStored user window

theorem Answers.unblamed {post : Post} {calls : List Made} {answer : Except FeedError PostId}
    (answers : s.Answers post calls answer) : Unblamed answer := by
  cases answers with
  | @unstored reply error bad =>
    obtain _ | e | done := reply <;> cases bad
    · exact Unblamed.error nofun
    · cases e <;> exact Unblamed.error id
  | @unlisted reply error bad =>
    obtain _ | e | friends := reply <;> cases bad
    · exact Unblamed.error nofun
    · exact Unblamed.error id
  | reached reports =>
    unfold Reach.answer
    split
    · exact Unblamed.ok _
    · exact Unblamed.error id

theorem unblamed_createPost {author : UserId} {post : Post} {calls : List Made} {answer : Except FeedError PostId}
    (goes : (s.createPost author post).Goes calls (.done answer)) : Unblamed answer := by
  obtain ⟨-, answers⟩ | ⟨-, -, rfl⟩ := goes_answers goes
  · exact answers.unblamed
  · exact Unblamed.error id

/-- A page whose cache fails or hangs is that of a user without a cached feed, and this is told once, before anything
else. A window that does not fit asks nothing of the cache. No error that a page or a creation ends in blames the
cache. -/
theorem feedPage_degrades (s : Service) (user : UserId) (window : Window) (fate : Call → Fate) (w : World) :
    let course := (s.feedPage user window).facing fate w
    let absent := (s.feedPage user window).facing (withCache fate) (w.feedless user)
    (window.fits s.capacity = true → (∃ made ∈ course.calls, made.call.toCache = true ∧ made.succeeded = false) →
        course.answer = absent.answer ∧ course.events = .degraded user :: absent.events) ∧
      (window.fits s.capacity = false →
        course.answer = absent.answer ∧ course.events = absent.events ∧
          ∀ made ∈ course.calls, made.call.toCache = false) ∧
      absent.answer = some (s.lookup user window fate w w) ∧ (∀ other, .degraded other ∉ absent.events) ∧
      (∀ calls e, (s.feedPage user window).Goes calls (.done (.error e)) → ¬e.BlamesCache) ∧
      ∀ author post calls e, (s.createPost author post).Goes calls (.done (.error e)) → ¬e.BlamesCache := by
  intro course absent
  have stored : Uncached user (s.lookup user window fate w w) ((s.readStored user window).facing fate w) :=
    s.facing_readStored user window fate w
  have missing := s.facing_absent user window fate w
  refine ⟨?_, ?_, missing.1, ?_, ?_, ?_⟩
  · intro fits lost
    obtain ⟨answer, events⟩ := facing_lost fits lost
    exact ⟨answer.trans missing.1.symm, by rw [events, missing.2]⟩
  · intro unfit
    have same : course = (s.readStored user window).facing fate w := by
      simp [course, feedPage, unfit]
    rw [same]
    exact ⟨stored.answer.trans missing.1.symm, stored.events.trans missing.2.symm, stored.calls⟩
  · intro other
    rw [missing.2]
    unfold heard
    split <;> simp
  · intro calls e goes
    exact (s.unblamed_feedPage user window).goes goes e rfl
  · intro author post calls e goes
    exact unblamed_createPost goes e rfl

/-- The read hangs, and the store fails as well. -/
theorem feedPage_degrades_twice :
    let fate : Call → Fate
      | .read .. => .unanswered
      | .query .. => .refused (.store (.persistence "down"))
      | _ => .served
    let w : World := { World.empty 2 .ofNat with cache := FeedCache.empty.push (.ofNat 1) ⟨.empty⟩ 9 }
    let course := (feedPage {} (.ofNat 1) (.of 2 0)).facing fate w
    course.answer = some (.error (.storageUnavailable (.persistence "down"))) ∧
      course.events = [.degraded (.ofNat 1)] := by
  intro fate w course
  obtain ⟨degrades, -, absent, -⟩ := feedPage_degrades {} (.ofNat 1) (.of 2 0) fate w
  have late : ⟨.read (.ofNat 1) 0 (some 2), none⟩ ∈ course.calls := List.mem_cons_of_mem _ List.mem_cons_self
  obtain ⟨answer, events⟩ := degrades (by decide) ⟨_, late, rfl, rfl⟩
  exact ⟨answer.trans absent, events⟩

end Service
end FeedFanout
