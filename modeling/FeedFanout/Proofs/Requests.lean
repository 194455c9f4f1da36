import FeedFanout.Http.Router
import FeedFanout.Proofs.Doings

/-!
Requests. One that is refused early has not come to the service. The others create a post, or do something else that
stores nothing and has no reply that blames the client (`Http.Handled`, `Http.does_serve`).
-/
namespace FeedFanout

/-! ### The service behind the requests -/

/-- Calls that read and change nothing. -/
def Call.Reads : Call → Prop
  | .query .. | .friendsOf _ | .exists _ | .read .. => True
  | _ => False

/-- Not an append. -/
def Call.StoresNothing (call : Call) : Prop := ∀ post, call ≠ .append post

theorem Call.Reads.storesNothing {call : Call} (reads : call.Reads) : call.StoresNothing := by
  rintro post rfl
  exact reads

theorem Call.StoresNothing.unstored {made : Made} (nothing : made.call.StoresNothing) : made.stored? = none := by
  cases stored : made.stored? with
  | none => rfl
  | some post => exact absurd (Made.stored?_eq_some.mp stored).1 (nothing post)

/-- The creation of a post was refused: somebody else is the author, or the identifier is in use. -/
def FeedError.IsRefusal : FeedError → Prop
  | .validation _ | .duplicatePost _ => True
  | _ => False

/-- The answer is not a refusal. -/
def Fair {α : Type} (answer : Except FeedError α) : Prop := ∀ error, answer = .error error → ¬error.IsRefusal

theorem Fair.ok {α : Type} (value : α) : Fair (.ok value) := nofun

theorem Fair.error {α : Type} {e : FeedError} (fair : ¬e.IsRefusal) : Fair (.error e : Except FeedError α) := by
  rintro _ ⟨⟩
  exact fair

namespace Service
variable (s : Service)

theorem reads_within (operation : Operation) {call : Call} (reads : call.Reads) :
    (s.within operation call).Within Call.Reads Fair := by
  refine ⟨reads, ?_⟩
  rintro (_ | reply)
  · exact Fair.error id
  · exact Fair.ok reply

theorem reads_friendsOf (user : UserId) : (s.friendsOf user).Within Call.Reads Fair := by
  refine Task.Within.bind (s.reads_within .friends trivial) ?_
  rintro (e | e | friends) fair
  · exact Fair.error (fair e rfl)
  · exact Fair.error id
  · exact Fair.ok friends

theorem reads_readStored (user : UserId) (window : Window) :
    (s.readStored user window).Within Call.Reads Fair := by
  refine Task.Within.bind (s.reads_friendsOf user) ?_
  rintro (e | friends) fair
  · exact Fair.error (fair e rfl)
  refine Task.Within.bind (s.reads_within .query trivial) ?_
  rintro (e | e | posts) fair
  · exact Fair.error (fair e rfl)
  · exact Fair.error id
  · exact Fair.ok _

theorem reads_readCached (user : UserId) (window : Window) :
    (s.readCached user window).Within Call.Reads fun _ => True := by
  refine Task.Within.bind (s.reads_within .exists trivial) ?_
  rintro (_ | _ | _ | _) -
  · trivial
  · trivial
  · trivial
  refine Task.Within.bind (s.reads_within .read trivial) ?_
  rintro (_ | _ | entries) -
  · trivial
  · trivial
  · cases decoded : decodeAll entries <;> simp only [decoded] <;> trivial

theorem reads_feedPage (user : UserId) (window : Window) : (s.feedPage user window).Within Call.Reads Fair := by
  unfold feedPage
  split
  · refine Task.Within.bind (s.reads_readCached user window) ?_
    rintro (_ | reason | e | posts) -
    · exact s.reads_readStored user window
    · exact s.reads_readStored user window
    · exact Fair.error id
    · exact Fair.ok _
  · exact s.reads_readStored user window

end Service

namespace Warmer

/-- The failure that a rebuild is reported with, if any. -/
def failed? : Warmed → Option WarmFailure
  | ⟨_, .ok ()⟩ => none
  | ⟨user, .error e⟩ => some ⟨user, e.message⟩

/-- What there is to report of rebuilds that were heard of. -/
def reportOf (warmed : List Warmed) : WarmReport :=
  ⟨warmed.countP fun one => (failed? one).isNone, warmed.filterMap failed?⟩

theorem remarks_summarize (warmed : List Warmed) : (summarize warmed).Remarks (reportOf warmed) := by
  induction warmed with
  | nil => exact .done _
  | cons one rest ih =>
    obtain ⟨user, e | done⟩ := one
    · have listed := ih.map fun report => { report with failures := ⟨user, e.message⟩ :: report.failures }
      exact .remark _ listed
    · have counted := ih.map fun report => { report with warmed := report.warmed + 1 }
      rwa [reportOf, List.countP_cons_of_pos rfl]

theorem remarks_finish (warmed : List Warmed) : (finish warmed).Remarks (.ok (reportOf warmed)) :=
  (remarks_summarize warmed).bind (.remark _ (.done _))

/-- A run over all users stores nothing. -/
theorem does_warmAll {manner : Manner} {wm : Warmer} {w : World} {course : Course (Except WarmError WarmReport)}
    (does : Plan.Does manner wm wm.warmAll w course) : ∀ made ∈ course.calls, made.call.StoresNothing := by
  have first : Task.Within Call.StoresNothing (fun stage => ∀ users last, stage = .warmEach users last → last = finish)
      wm.warmAll := by
    refine ⟨nofun, ?_⟩
    rintro (e | users)
    · exact nofun
    · rintro _ _ ⟨⟩
      rfl
  have rebuilds : ∀ {users : List UserId} {w : World} {trace : List (Nat × Made)} {c : Crowd (Except WarmError Unit)},
      Crowd.Runs manner ⟨users.map wm.warmUser, w⟩ trace c → ∀ made ∈ trace.map (·.2), made.call.StoresNothing := by
    rintro users w trace c runs made member post same
    have makes := makes_trace runs made member
    rw [same] at makes
    exact makes
  cases does with
  | left does | answer does => exact (first.does does).1
  | warming does staged runs => exact List.forall_mem_append.mpr ⟨(first.does does).1, rebuilds runs⟩
  | @warmed before users last trace results warmed w' after does staged runs heard ends =>
    obtain rfl : last = finish := (first.does does).2 _ staged users last rfl
    rw [((remarks_finish warmed).does ends).calls, List.append_nil]
    exact List.forall_mem_append.mpr ⟨(first.does does).1, rebuilds runs⟩

end Warmer

namespace Http

/-! ### Replies -/

/-- The request was refused before anything was asked of the service. -/
structure Reply.Early (reply : Reply) : Prop where
  client : 400 ≤ reply.status ∧ reply.status < 500
  report : ∀ error, reply.report ≠ (Reply.ofFeedError error).report

/-- The status does not blame the client. -/
def Reply.Blameless (reply : Reply) : Prop := ¬(400 ≤ reply.status ∧ reply.status < 500)

theorem report_ofFeedError (error : FeedError) :
    (Reply.ofFeedError error).report = some ⟨"infra::http::feed_error_to_http_error", error.chain⟩ := by
  cases error <;> rfl

theorem blameless_ofFeedError {error : FeedError} (fair : ¬error.IsRefusal) : (Reply.ofFeedError error).Blameless := by
  cases error with
  | validation | duplicatePost => exact absurd trivial fair
  | _ => simp [Reply.Blameless, Reply.ofFeedError, Reply.failed]

theorem early_refused {status : Nat} (client : 400 ≤ status ∧ status < 500) (text : String) :
    (Reply.refused status text).Early := by
  refine ⟨client, fun error => ?_⟩
  rw [report_ofFeedError]
  nofun

theorem early_failed {status : Nat} (client : 400 ≤ status ∧ status < 500) (text : String) {source : String}
    (other : source ≠ "infra::http::feed_error_to_http_error") (chain : List String) :
    (Reply.failed status text source chain).Early := by
  refine ⟨client, fun error same => ?_⟩
  rw [report_ofFeedError] at same
  exact other (congrArg Report.source (Option.some.inj same))

theorem early_viewer {r : Request} {reply : Reply} (refused : viewer r = .error reply) : reply.Early := by
  unfold viewer at refused
  split at refused
  · cases refused
    exact early_failed (by decide) _ (by decide) _
  split at refused
  · cases refused
    exact early_failed (by decide) _ (by decide) _
  split at refused
  · cases refused
  · cases refused
    exact early_failed (by decide) _ (by decide) _

theorem early_requestedText {r : Request} {reply : Reply} (refused : requestedText r = .error reply) :
    reply.Early := by
  unfold requestedText at refused
  extract_lets isJson at refused
  split at refused
  · cases refused
    exact early_refused (by decide) _
  split at refused
  · cases refused
    exact early_refused (by decide) _
  split at refused
  · cases refused
    unfold refuseBody
    split
    · exact early_refused (by decide) _
    · exact early_refused (by decide) _
  · cases refused

/-! ### Requests to the routes -/

/-- The request is for the creation of a post. -/
structure Request.Creates (r : Request) : Prop where
  method : r.method = "POST"
  path : r.target.path = "/post/create"

/-- The request is for the creation of a post by a known author, with a text. -/
structure Request.Asks (r : Request) (author : UserId) (text : String) : Prop extends r.Creates where
  author : viewer r = .ok author
  requested : requestedText r = .ok text
  filled : Text.onlyBlank text = false

/-- The reply to a creation that was carried out. -/
def createdReply : Except FeedError PostId → Reply
  | .error e => .ofFeedError e
  | .ok post => { status := 200, body := .json (createdBody post) }

/-- The creation of a post with a new identifier. -/
def creation (s : Service) (author : UserId) (text : String) : Task (Except FeedError PostId) :=
  .ask .mint fun id => s.createPost author ⟨id, author, text⟩

theorem createPost_of_asks (s : Service) {r : Request} {author : UserId} {text : String} (asks : r.Asks author text) :
    createPost s r = (creation s author text).bind fun answer => .done (createdReply answer) := by
  unfold createPost withViewer
  simp only [asks.author, asks.requested]
  rw [if_neg (by rw [asks.filled]; decide)]
  change Task.ask _ _ = Task.ask _ _
  congr
  funext id
  change (s.createPost author ⟨id, author, text⟩).bind _ = (s.createPost author ⟨id, author, text⟩).bind _
  congr
  funext answer
  cases answer <;> rfl

theorem createPost_cases (s : Service) {r : Request} (creates : r.Creates) :
    (∃ reply, reply.Early ∧ createPost s r = .done reply) ∨
      ∃ author text, r.Asks author text ∧
        createPost s r = (creation s author text).bind fun answer => .done (createdReply answer) := by
  cases author : viewer r with
  | error reply => exact .inl ⟨reply, early_viewer author, by rw [createPost, withViewer, author]; rfl⟩
  | ok user =>
    cases requested : requestedText r with
    | error reply =>
      exact .inl ⟨reply, early_requestedText requested, by rw [createPost, withViewer, author, requested]; rfl⟩
    | ok text =>
      cases blank : Text.onlyBlank text with
      | true =>
        refine .inl ⟨.failed 400 "Post text must not be empty" "infra::http::create_post" ["empty post text"],
          early_failed (by decide) _ (by decide) _, ?_⟩
        simp only [createPost, withViewer, author, requested, blank, if_true]
        rfl
      | false =>
        have asks : r.Asks user text := ⟨creates, author, requested, blank⟩
        exact .inr ⟨user, text, asks, createPost_of_asks s asks⟩

/-- The reply to a read of a feed. -/
def pageReply : Except FeedError FeedPage → Reply
  | .error e => .ofFeedError e
  | .ok page => { status := 200, body := .json (postsBody page.posts), source := some page.source }

theorem getFeed_cases (s : Service) (r : Request) :
    (∃ reply, reply.Early ∧ getFeed s r = .done reply) ∨
      ∃ user window, getFeed s r = (s.feedPage user window).bind fun answer => .done (pageReply answer) := by
  unfold getFeed withViewer
  cases author : viewer r with
  | error reply => exact .inl ⟨reply, early_viewer author, rfl⟩
  | ok user =>
    dsimp only
    split
    · exact .inl ⟨_, early_refused (by decide) _, rfl⟩
    split
    · exact .inl ⟨_, early_failed (by decide) _ (by decide) _, rfl⟩
    · rename_i window _
      refine .inr ⟨user, window, ?_⟩
      change Task.bind _ _ = Task.bind _ _
      congr
      funext answer
      cases answer <;> rfl

theorem blameless_pageReply {answer : Except FeedError FeedPage} (fair : Fair answer) :
    (pageReply answer).Blameless := by
  cases answer with
  | error e => exact blameless_ofFeedError (fair e rfl)
  | ok page => simp [pageReply, Reply.Blameless]

/-- How a request was handled. -/
inductive Handled (manner : Manner) (s : Service) (r : Request) (w : World) : Course Reply → Prop
  | early {course : Course Reply} (idles : course.Idles w Reply.Early) : Handled manner s r w course
  | created {author : UserId} {text : String} {inner : Course (Except FeedError PostId)} {course : Course Reply}
      (asks : r.Asks author text) (does : (creation s author text).Does manner w inner)
      (becomes : inner.Becomes createdReply course) : Handled manner s r w course
  | other {course : Course Reply} (different : ¬r.Creates) (unstored : ∀ made ∈ course.calls, made.stored? = none)
      (blameless : ∀ reply, course.answer = some reply → reply.Blameless) : Handled manner s r w course

section
variable {manner : Manner} {s : Service} {wm : Warmer} {r : Request} {w : World} {course : Course Reply}

theorem handled_done {reply : Reply} (early : reply.Early) (does : (Task.done reply).Does manner w course) :
    Handled manner s r w course :=
  .early { does.of_done with answer := fun value answered => does.of_done.answer value answered ▸ early }

theorem handled_other (different : ¬r.Creates) {t : Task Reply} (within : t.Within Call.StoresNothing Reply.Blameless)
    (does : t.Does manner w course) : Handled manner s r w course :=
  .other different (fun made member => ((within.does does).1 made member).unstored) (within.does does).2

theorem handled_getFeed (different : ¬r.Creates) (does : (getFeed s r).Does manner w course) :
    Handled manner s r w course := by
  obtain ⟨reply, early, same⟩ | ⟨user, window, same⟩ := getFeed_cases s r
  · exact handled_done early (same ▸ does)
  · rw [same] at does
    refine handled_other different (Task.Within.bind ((s.reads_feedPage user window).mono ?_) ?_) does
    · exact fun call reads => reads.storesNothing
    · exact fun answer fair => blameless_pageReply fair

theorem handled_createPost (creates : r.Creates) (does : (createPost s r).Does manner w course) :
    Handled manner s r w course := by
  obtain ⟨reply, early, same⟩ | ⟨author, text, asks, same⟩ := createPost_cases s creates
  · exact handled_done early (same ▸ does)
  · rw [same] at does
    obtain ⟨inner, does, becomes⟩ := does.of_bind fun answer => Task.Remarks.done (createdReply answer)
    exact .created asks does becomes

theorem handled_watch (different : ¬r.Creates) (does : (watch r).Does manner w course) :
    Handled manner s r w course := by
  unfold watch withViewer at does
  cases author : viewer r with
  | error reply =>
    rw [author] at does
    exact handled_done (early_viewer author) does
  | ok user =>
    rw [author] at does
    refine handled_other different ?_ does
    refine ⟨nofun, fun stream => ?_⟩
    change Reply.Blameless _
    simp [Reply.Blameless]

theorem handled_health (different : ¬r.Creates) (does : health.Does manner w course) : Handled manner s r w course := by
  refine handled_other different (t := health) ⟨nofun, ?_⟩ does
  rintro (e | done)
  · change Reply.Blameless _
    simp [Reply.Blameless]
  · change Reply.Blameless _
    simp [Reply.Blameless]

/-- The reply to a warming. -/
def warmReply : Except WarmError WarmReport → Reply
  | .ok report => { status := 200, body := .json report.wire }
  | .error e => .failed 503 "Cache warm could not start" "infra::http::warm_cache" e.chain

theorem handled_warm (different : ¬r.Creates) (does : Plan.Does manner wm (warm wm) w course) :
    Handled manner s r w course := by
  obtain ⟨inner, does, becomes⟩ : ∃ inner, Plan.Does manner wm wm.warmAll w inner ∧ inner.Becomes warmReply course := by
    refine Plan.Does.of_andThen ?_ does
    rintro (e | report)
    · exact .done _
    · exact .done _
  refine .other different ?_ ?_
  · rw [becomes.calls]
    exact fun made member => (Warmer.does_warmAll does made member).unstored
  · intro given answered
    obtain ⟨e | report, -, rfl⟩ := becomes.answer given answered
    · simp [warmReply, Reply.Blameless, Reply.failed]
    · simp [warmReply, Reply.Blameless]

theorem not_creates {route : Route} (found : Route.ofPath? r.target.path = some route) (other : route ≠ .create) :
    ¬r.Creates := by
  intro creates
  rw [creates.path] at found
  exact other (Option.some.inj (found.symm.trans rfl))

/-- A request is refused early, or creates a post, or is for something else, and then logged if need be. -/
theorem does_serve (does : Plan.Does manner wm (serve s wm r) w course) :
    ∃ inner, Handled manner s r w inner ∧
      inner.Becomes (fun reply => { reply with headOnly := decide (r.method = "HEAD") }) course := by
  obtain ⟨inner, does, becomes⟩ := does.of_andThen
    (g := fun reply => { reply with headOnly := decide (r.method = "HEAD") }) (fun reply => by
      change Task.Remarks ((logReply r reply).bind _) _
      unfold logReply
      split
      · exact .remark _ (.done _)
      · exact .done _)
  refine ⟨inner, ?_, becomes⟩
  unfold answer at does
  split at does
  · exact handled_done ⟨by decide, fun error => by rw [report_ofFeedError]; nofun⟩ does.ofTask
  · rename_i route found
    split at does
    · rename_i allowed
      cases route with
      | feed => exact handled_getFeed (not_creates found nofun) does.ofTask
      | create =>
        have path : Route.create.path = r.target.path := by simpa using List.find?_some found
        exact handled_createPost ⟨List.mem_singleton.mp allowed, path.symm⟩ does.ofTask
      | posted => exact handled_watch (not_creates found nofun) does.ofTask
      | warm => exact handled_warm (not_creates found nofun) does
      | health => exact handled_health (not_creates found nofun) does.ofTask
    · exact handled_done ⟨by simp, fun error => by rw [report_ofFeedError]; nofun⟩ does.ofTask

end

end Http
end FeedFanout
