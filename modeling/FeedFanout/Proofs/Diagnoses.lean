import FeedFanout.Log
import FeedFanout.Proofs.Causes
import FeedFanout.Proofs.Requests
import FeedFanout.Proofs.Silence

/-!
Diagnoses of failed requests. Each way of answering a request has a reply, and each that fails has a cause: the request
was turned away before it came to the program, or a text says what is wrong, or an error does (`Http.Outcome.cause?`).
Answering a request is finding its outcome, and then writing to the log what the cause is (`Http.serve_eq`,
`Http.logged`).
-/
namespace FeedFanout.Http

/-! ### Outcomes -/

/-- Why no user is known that a request acts for. -/
inductive Stranger
  | nobody
  /-- The header has other than visible characters. -/
  | unreadable
  | noUser (error : DomainError)

/-- Why a body does not hold the post that is asked for. -/
inductive BodyFault
  | noJson
  | tooLarge
  | unread (failure : Json.Failure Empty)

/-- What handling a request came to. -/
inductive Outcome
  | noRoute
  | noMethod (route : Route)
  | stranger (why : Stranger)
  | badQuery (error : QueryError)
  | badBody (fault : BodyFault)
  | badWindow (error : WindowError)
  | blankText
  | page (result : Except FeedError FeedPage)
  | created (result : Except FeedError PostId)
  | watching (user : UserId) (stream : Live.Stream)
  | warmed (result : Except WarmError WarmReport)
  | healthy (result : Except DatabaseError Unit)

/-- Who or what failed a request. -/
inductive Cause
  /-- It was turned away before it came to its handler: by its path or method, or when its query or body was read. -/
  | outside
  /-- There is no error but a text. -/
  | detail (text : String)
  | error (e : AnyError)

def Stranger.reply : Stranger → Reply
  | nobody => .failed 401 "Missing user identity" "infra::http::viewer" [s!"request has no `{Request.viewerHeader}` header"]
  | unreadable => .failed 400 "Invalid user identity" "infra::http::viewer" ["failed to convert header to a str"]
  | noUser e => .failed 400 "Invalid user identity" "infra::http::viewer" [e.message]

def Stranger.cause : Stranger → Cause
  | nobody => .detail "request has no `x-user-id` header"
  | unreadable => .error (.foreign "failed to convert header to a str" [])
  | noUser e => .error (.identity e)

def BodyFault.reply : BodyFault → Reply
  | noJson => .refused 415 "Expected request with `Content-Type: application/json`"
  | tooLarge => .refused 413 "Failed to buffer the request body: length limit exceeded"
  | unread failure => refuseBody failure

namespace Outcome

/-- The reply before it is logged. -/
def reply : Outcome → Reply
  | noRoute => { status := 404 }
  | noMethod route => { status := 405, allow := some (",".intercalate route.methods) }
  | stranger why => why.reply
  | badQuery e => .refused 400 e.message
  | badBody fault => fault.reply
  | badWindow e => .failed 400 "Invalid pagination" "infra::http::get_feed" [e.message]
  | blankText => .failed 400 "Post text must not be empty" "infra::http::create_post" ["empty post text"]
  | page result => pageReply result
  | created result => createdReply result
  | watching user stream => { status := 200, body := .events user stream }
  | warmed result => warmReply result
  | healthy (.ok ()) => { status := 204 }
  | healthy (.error e) => { status := 503, report := some ⟨"infra::http::db_health", e.chain⟩ }

/-- What failed the request, if anything did. -/
def cause? : Outcome → Option Cause
  | noRoute | noMethod _ | badQuery _ | badBody _ => some .outside
  | stranger why => some why.cause
  | badWindow e => some (.error (.window e))
  | blankText => some (.detail "empty post text")
  | page (.error e) | created (.error e) => some (.error (.feed e))
  | warmed (.error e) => some (.error (.warm e))
  | healthy (.error e) => some (.error (.database e))
  | page (.ok _) | created (.ok _) | watching .. | warmed (.ok _) | healthy (.ok _) => none

end Outcome

/-! ### Handling a request -/

/-- The user a request acts for. -/
def identify (r : Request) : Except Stranger UserId :=
  match r.header? Request.viewerHeader with
  | none => .error .nobody
  | some raw =>
    match Request.readable? raw with
    | none => .error .unreadable
    | some text => (UserId.parse text).mapError .noUser

/-- A handler behind the check of the viewer. -/
def identified (r : Request) (handle : UserId → Task Outcome) : Task Outcome :=
  match identify r with
  | .error why => .done (.stranger why)
  | .ok user => handle user

/-- The text of the post that a request asks for. -/
def bodyText (r : Request) : Except BodyFault String :=
  let isJson := ((r.header? "content-type").bind Request.readable?).bind MediaType.parse? |>.any (·.isJson)
  if !isJson then .error .noJson
  else if largestBody < r.body.size then .error .tooLarge
  else ((requestFormat.read (Text.Utf8.read r.body)).mapError .unread).map (·.getD "")

/-! The routes one by one. -/

def reading (s : Service) (r : Request) : Task Outcome :=
  identified r fun user =>
    match FeedQuery.parse (r.target.query.getD "") with
    | .error e => .done (.badQuery e)
    | .ok query =>
      match Window.ofRaw query.limit query.offset with
      | .error e => .done (.badWindow e)
      | .ok window => (s.feedPage user window).bind fun result => .done (.page result)

def creating (s : Service) (r : Request) : Task Outcome :=
  identified r fun user =>
    match bodyText r with
    | .error fault => .done (.badBody fault)
    | .ok text =>
      if Text.onlyBlank text then .done .blankText
      else (creation s user text).bind fun result => .done (.created result)

def watching (r : Request) : Task Outcome :=
  identified r fun user =>
    .ask (.subscribe user) fun stream =>
      .tell (.remark (.viewerConnected user)) (.done (.watching user (stream.getD .finished)))

def warming (w : Warmer) : Plan Outcome := w.warmAll.andThen fun result => .done (.warmed result)

def checking : Task Outcome := .ask .ping fun result => .done (.healthy result)

def Route.outcome (route : Route) (s : Service) (w : Warmer) (r : Request) : Plan Outcome :=
  match route with
  | feed => .ofTask (reading s r)
  | create => .ofTask (creating s r)
  | posted => .ofTask (watching r)
  | warm => warming w
  | health => .ofTask checking

/-- What handling a request comes to. -/
def outcome (s : Service) (w : Warmer) (r : Request) : Plan Outcome :=
  match Route.ofPath? r.target.path with
  | none => .ofTask (.done .noRoute)
  | some route => if r.method ∈ route.methods then route.outcome s w r else .ofTask (.done (.noMethod route))

/-! ### From outcomes to replies -/

theorem viewer_eq (r : Request) : viewer r = (identify r).mapError Stranger.reply := by
  unfold viewer identify
  dsimp only
  cases r.header? Request.viewerHeader with
  | none => rfl
  | some raw =>
    dsimp only
    cases Request.readable? raw with
    | none => rfl
    | some text =>
      dsimp only
      cases UserId.parse text <;> rfl

theorem requestedText_eq (r : Request) : requestedText r = (bodyText r).mapError BodyFault.reply := by
  unfold requestedText bodyText
  dsimp only
  split
  · rfl
  split
  · rfl
  · cases requestFormat.read (Text.Utf8.read r.body) <;> rfl

/-- The replies of a task's outcomes. -/
def replying (t : Task Outcome) : Task Reply := t.bind fun o => .done o.reply

theorem withViewer_eq {r : Request} {handle : UserId → Task Reply} {handled : UserId → Task Outcome}
    (same : ∀ user, handle user = replying (handled user)) : withViewer r handle = replying (identified r handled) := by
  unfold withViewer identified
  rw [viewer_eq]
  cases identify r with
  | error why => rfl
  | ok user => exact same user

theorem getFeed_eq (s : Service) (r : Request) : getFeed s r = replying (reading s r) := by
  refine withViewer_eq fun user => ?_
  cases FeedQuery.parse (r.target.query.getD "") with
  | error e => rfl
  | ok query =>
    dsimp only
    cases Window.ofRaw query.limit query.offset with
    | error e => rfl
    | ok window =>
      refine Eq.trans ?_ (Task.bind_assoc (s.feedPage user window) _ _).symm
      change Task.bind _ _ = Task.bind _ _
      congr
      funext result
      cases result <;> rfl

theorem createPost_eq (s : Service) (r : Request) : createPost s r = replying (creating s r) := by
  refine withViewer_eq fun user => ?_
  rw [requestedText_eq]
  cases bodyText r with
  | error fault => rfl
  | ok text =>
    dsimp only [Except.mapError]
    split
    · rfl
    · refine Eq.trans ?_ (Task.bind_assoc (creation s user text) _ _).symm
      change Task.ask _ _ = Task.ask _ _
      congr
      funext id
      change (s.createPost user ⟨id, user, text⟩).bind _ = (s.createPost user ⟨id, user, text⟩).bind _
      congr
      funext result
      cases result <;> rfl

theorem watch_eq (r : Request) : watch r = replying (watching r) := withViewer_eq fun _ => rfl

theorem health_eq : health = replying checking := by
  change Task.ask _ _ = Task.ask _ _
  congr
  funext result
  cases result <;> rfl

theorem warm_eq (w : Warmer) : warm w = (warming w).andThen fun o => .done o.reply := by
  refine Eq.trans ?_ (Plan.andThen_andThen w.warmAll _ _).symm
  refine congrArg (Plan.andThen w.warmAll) ?_
  funext result
  cases result <;> rfl

/-- The reply to a request is that of its outcome. -/
theorem answer_eq (s : Service) (w : Warmer) (r : Request) :
    answer s w r = (outcome s w r).andThen fun o => .done o.reply := by
  unfold answer outcome
  cases Route.ofPath? r.target.path with
  | none => rfl
  | some route =>
    dsimp only
    split
    · cases route with
      | feed => exact (congrArg Plan.ofTask (getFeed_eq s r)).trans (Plan.ofTask_bind _ _)
      | create => exact (congrArg Plan.ofTask (createPost_eq s r)).trans (Plan.ofTask_bind _ _)
      | posted => exact (congrArg Plan.ofTask (watch_eq r)).trans (Plan.ofTask_bind _ _)
      | warm => exact warm_eq w
      | health => exact (congrArg Plan.ofTask health_eq).trans (Plan.ofTask_bind _ _)
    · rfl

namespace Outcome

/-- What goes to the log in the end. -/
def remarks (r : Request) (o : Outcome) : List Remark := (o.reply.failure? r).toList.map .requestFailed

/-- The reply that is sent. -/
def answer (r : Request) (o : Outcome) : Reply := { o.reply with headOnly := r.method = "HEAD" }

end Outcome

/-- A request is answered by finding its outcome and writing to the log if that is a failure. -/
theorem serve_eq (s : Service) (w : Warmer) (r : Request) :
    serve s w r = (outcome s w r).andThen fun o => .noting (o.remarks r) (o.answer r) := by
  rw [serve, answer_eq, Plan.andThen_andThen]
  refine congrArg (Plan.andThen (outcome s w r)) ?_
  funext o
  change (logReply r o.reply).bind _ = _
  unfold logReply Outcome.remarks
  cases o.reply.failure? r <;> rfl

/-! ### Handling logs no failure -/

theorem quiet_identified (r : Request) {handle : UserId → Task Outcome} (quiet : ∀ user, (handle user).Quiet) :
    (identified r handle).Quiet := by
  unfold identified
  split
  · trivial
  · exact quiet _

theorem quiet_reading (s : Service) (r : Request) : (reading s r).Quiet := by
  refine quiet_identified r fun user => ?_
  split
  · trivial
  split
  · trivial
  · exact (s.quiet_feedPage user _).bind fun _ => trivial

theorem quiet_creating (s : Service) (r : Request) : (creating s r).Quiet := by
  refine quiet_identified r fun user => ?_
  split
  · trivial
  split
  · trivial
  · exact fun id => (s.quiet_createPost user _).bind fun _ => trivial

theorem quiet_watching (r : Request) : (watching r).Quiet := quiet_identified r fun _ _ => ⟨rfl, trivial⟩

theorem quiet_outcome (s : Service) (w : Warmer) (r : Request) : (outcome s w r).Quiet := by
  unfold outcome
  split
  · trivial
  · split
    · rename_i route _ _
      cases route with
      | feed => exact (quiet_reading s r).ofTask
      | create => exact (quiet_creating s r).ofTask
      | posted => exact (quiet_watching r).ofTask
      | warm => exact w.quiet_warmAll.andThen fun _ => trivial
      | health => exact fun _ => trivial
    · trivial

/-! ### What is logged of an outcome -/

/-- The records about failed requests among what was told. -/
def responses (remarks : List Remark) : List LogRecord :=
  (remarks.map .ofRemark).filter fun record => record.fields.lookup "target" = some (.text "homefeed::http::response")

theorem responses_eq (remarks : List Remark) :
    responses remarks = (remarks.filterMap Remark.failure?).map .ofFailedRequest := by
  induction remarks with
  | nil => rfl
  | cons r remarks ih =>
    have here : decide ((LogRecord.ofRemark r).fields.lookup "target" = some (.text "homefeed::http::response")) =
        r.failure?.isSome := by
      cases r <;> rfl
    unfold responses at ih ⊢
    rw [List.map_cons, List.filter_cons, here]
    cases failure : r.failure? with
    | none =>
      rw [List.filterMap_cons_none failure, ← ih]
      rfl
    | some request =>
      obtain rfl : r = .requestFailed request := by
        cases r <;> cases failure
        rfl
      rw [List.filterMap_cons_some failure, List.map_cons, ← ih]
      rfl

/-- The source, the chain and the detail that stand in a record for a cause. -/
def Cause.Tells : Cause → String → List String → String → Prop
  | outside, source, chain, first => source = "unknown" ∧ chain = [] ∧ first = "no diagnostic available"
  | detail text, source, chain, first => source ≠ "unknown" ∧ chain = [text] ∧ first = text
  | error e, source, chain, first => source ≠ "unknown" ∧ e.Chain chain ∧ chain.head? = some first

/-- The raw text of the header that names the viewer, if it can be read. -/
structure Request.Names (r : Request) (viewer : String) : Prop where
  readable : ∀ raw : String, r.headers.lookup "x-user-id" = some raw.toUTF8 → Request.isReadable raw = true → viewer = raw
  other : (∀ raw : String, r.headers.lookup "x-user-id" = some raw.toUTF8 → Request.isReadable raw = false) → viewer = ""

/-- Of a failure there is one record, and of anything else there is none. -/
structure Outcome.Logged (r : Request) (o : Outcome) (records : List LogRecord) : Prop where
  silent : ¬(400 ≤ o.reply.status ∧ o.reply.status < 600) → o.cause? = none ∧ records = []
  told : 400 ≤ o.reply.status ∧ o.reply.status < 600 → ∃ cause source chain detail viewer,
    o.cause? = some cause ∧ cause.Tells source chain detail ∧ r.Names viewer ∧ records = [{
      level := if 500 ≤ o.reply.status then .error else .warn
      message := if 500 ≤ o.reply.status then "request failed" else "client request error"
      fields := [("target", .text "homefeed::http::response"), ("status", .number o.reply.status),
        ("method", .text r.method), ("path", .text r.target.path), ("query", .text (r.target.query.getD "")),
        ("source", .text source), ("detail", .text detail), ("chain", .texts chain), ("viewer", .text viewer)] }]

theorem names_rawViewer (r : Request) : r.Names r.rawViewer := by
  have viewer : r.rawViewer = ((r.headers.lookup "x-user-id").bind Request.readable?).getD "" := rfl
  refine ⟨fun raw given readable => ?_, fun unread => ?_⟩
  · rw [viewer, given, Option.bind_some, Request.readable?_toUTF8 readable, Option.getD_some]
  · suffices none : (r.headers.lookup "x-user-id").bind Request.readable? = none by rw [viewer, none, Option.getD_none]
    rw [Option.bind_eq_none_iff]
    intro value given
    rw [Option.eq_none_iff_forall_ne_some]
    intro raw read
    obtain ⟨rfl, readable⟩ := Request.readable?_eq_some_iff.mp read
    rw [unread raw given] at readable
    cases readable

/-- The reply is an error, and its report is of that cause. -/
structure Cause.Fails (cause : Cause) (reply : Reply) : Prop where
  error : 400 ≤ reply.status ∧ reply.status < 600
  tells : ∀ report, reply.report.getD ⟨"unknown", []⟩ = report →
    cause.Tells report.source report.chain (report.chain.head?.getD "no diagnostic available")

theorem fails_outside {reply : Reply} (error : 400 ≤ reply.status ∧ reply.status < 600) (bare : reply.report = none) :
    Cause.outside.Fails reply := by
  refine ⟨error, ?_⟩
  rw [bare]
  rintro _ ⟨⟩
  exact ⟨rfl, rfl, rfl⟩

theorem fails_refused {status : Nat} (error : 400 ≤ status ∧ status < 600) (text : String) :
    Cause.outside.Fails (.refused status text) := fails_outside error rfl

theorem fails_detail {status : Nat} (error : 400 ≤ status ∧ status < 600) {text source detail : String}
    (known : source ≠ "unknown") : (Cause.detail detail).Fails (.failed status text source [detail]) := by
  refine ⟨error, ?_⟩
  rintro _ ⟨⟩
  exact ⟨known, rfl, rfl⟩

theorem fails_error {reply : Reply} (error : 400 ≤ reply.status ∧ reply.status < 600) {source : String}
    {chain : List String} (report : reply.report = some ⟨source, chain⟩) (known : source ≠ "unknown") {e : AnyError}
    (whole : e.Chain chain) : (Cause.error e).Fails reply := by
  refine ⟨error, ?_⟩
  rw [report]
  rintro _ ⟨⟩
  refine ⟨known, whole, ?_⟩
  cases whole <;> rfl

theorem fails_failed {status : Nat} (error : 400 ≤ status ∧ status < 600) {text source : String} {chain : List String}
    (known : source ≠ "unknown") {e : AnyError} (whole : e.Chain chain) :
    (Cause.error e).Fails (.failed status text source chain) := fails_error error rfl known whole

theorem fails_ofFeedError (e : FeedError) : (Cause.error (.feed e)).Fails (.ofFeedError e) := by
  cases e <;> exact fails_failed (by decide) (by decide) (AnyError.chain_feed _)

theorem fails_stranger (why : Stranger) : why.cause.Fails why.reply := by
  cases why with
  | nobody => exact fails_detail (by decide) (by decide)
  | unreadable | noUser => exact fails_failed (by decide) (by decide) (.last rfl)

theorem fails_bodyFault (fault : BodyFault) : Cause.outside.Fails fault.reply := by
  cases fault with
  | noJson | tooLarge => exact fails_refused (by decide) _
  | unread failure =>
    change Cause.outside.Fails (refuseBody failure)
    unfold refuseBody
    split
    · exact fails_refused (by decide) _
    · exact fails_refused (by decide) _

theorem fails_healthy (e : DatabaseError) : (Cause.error (.database e)).Fails (Outcome.healthy (.error e)).reply :=
  fails_error (by decide : 400 ≤ 503 ∧ 503 < 600) rfl (by decide) (AnyError.chain_database e)

/-- A request is answered without an error, or its reply has a report of what failed it. -/
theorem diagnosed (o : Outcome) :
    (o.cause? = none ∧ o.reply.status < 400) ∨ ∃ cause, o.cause? = some cause ∧ cause.Fails o.reply := by
  have low : 200 < 400 ∧ 204 < 400 := by decide
  cases o with
  | noRoute => exact .inr ⟨_, rfl, fails_outside (by decide) rfl⟩
  | noMethod route => exact .inr ⟨_, rfl, fails_outside (by decide : 400 ≤ 405 ∧ 405 < 600) rfl⟩
  | stranger why => exact .inr ⟨_, rfl, fails_stranger why⟩
  | badQuery e => exact .inr ⟨_, rfl, fails_refused (by decide) _⟩
  | badBody fault => exact .inr ⟨_, rfl, fails_bodyFault fault⟩
  | badWindow e => exact .inr ⟨_, rfl, fails_failed (by decide) (by decide) (.last rfl)⟩
  | blankText => exact .inr ⟨_, rfl, fails_detail (by decide) (by decide)⟩
  | watching user stream => exact .inl ⟨rfl, low.1⟩
  | page result | created result =>
    cases result with
    | ok value => exact .inl ⟨rfl, low.1⟩
    | error e => exact .inr ⟨_, rfl, fails_ofFeedError e⟩
  | warmed result =>
    cases result with
    | ok report => exact .inl ⟨rfl, low.1⟩
    | error e => exact .inr ⟨_, rfl, fails_failed (by decide) (by decide) (AnyError.chain_warm e)⟩
  | healthy result =>
    cases result with
    | ok => exact .inl ⟨rfl, low.2⟩
    | error e => exact .inr ⟨_, rfl, fails_healthy e⟩

/-- Of each failure there is one record, and it tells the cause. -/
theorem logged (r : Request) (o : Outcome) : o.Logged r (responses (o.remarks r)) := by
  rw [responses_eq]
  obtain ⟨fine, low⟩ | ⟨cause, failed, ⟨error, tells⟩⟩ := diagnosed o
  · refine ⟨fun _ => ⟨fine, ?_⟩, fun failed => absurd failed.1 (Nat.not_le.mpr low)⟩
    have unlogged : o.reply.failure? r = none := if_neg (by simpa [Reply.isError] using low)
    rw [Outcome.remarks, unlogged]
    rfl
  · refine ⟨fun fine => absurd error fine, fun _ => ?_⟩
    refine ⟨cause, _, _, _, _, failed, tells _ rfl, names_rawViewer r, ?_⟩
    have failure : o.reply.failure? r = some _ := if_pos (by simpa [Reply.isError] using error.1)
    rw [Outcome.remarks, failure]
    change [LogRecord.ofFailedRequest _] = _
    rw [List.singleton_inj, LogRecord.ofFailedRequest]
    by_cases server : 500 ≤ o.reply.status
    · simp only [if_pos server]
      rfl
    · simp only [if_neg server]
      rfl

end FeedFanout.Http
