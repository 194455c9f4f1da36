import FeedFanout.Http.Router
import FeedFanout.Metrics
import Mathlib.Data.List.Forall2

/-!
Errors that tell of the same with other texts. The service makes the same calls whatever the texts are in the errors
that it gets for replies, and its answers differ in nothing else (`Service.twin_feedPage`, `Service.twin_createPost`).
The replies to clients differ in their reports only (`Http.twin_getFeed`, `Http.twin_createPost`).
-/
namespace FeedFanout

/-! ### Errors -/

/-- Errors of one kind, whatever they tell about it. -/
inductive StoreError.Akin : StoreError → StoreError → Prop
  | persistence (text other : String) : Akin (.persistence text) (.persistence other)
  | duplicate (text other : String) : Akin (.duplicate text) (.duplicate other)
  | invalidInput (text other : String) : Akin (.invalidInput text) (.invalidInput other)
  | integrity (text other : String) : Akin (.integrity text) (.integrity other)
  | timeout : Akin .timeout .timeout

inductive CacheError.Akin : CacheError → CacheError → Prop
  | unavailable (text other : String) : Akin (.unavailable text) (.unavailable other)
  | codec (error other : Post.CodecError) : Akin (.codec error) (.codec other)

inductive Live.NotifyError.Akin : Live.NotifyError → Live.NotifyError → Prop
  | transport (text other : String) : Akin (.transport text) (.transport other)
  | codec (error other : Post.CodecError) : Akin (.codec error) (.codec other)

/-- Of a database that cannot be reached nobody is told more than that. -/
inductive DatabaseError.Akin : DatabaseError → DatabaseError → Prop
  | intro (e other : DatabaseError) : Akin e other

theorem StoreError.Akin.refl (e : StoreError) : e.Akin e := by cases e <;> constructor

theorem CacheError.Akin.refl (e : CacheError) : e.Akin e := by cases e <;> constructor

theorem Live.NotifyError.Akin.refl (e : Live.NotifyError) : e.Akin e := by cases e <;> constructor

/-- Two errors, or two values. -/
inductive Agree {ε ε' α β : Type} (bad : ε → ε' → Prop) (good : α → β → Prop) : Except ε α → Except ε' β → Prop
  | error {e : ε} {e' : ε'} (akin : bad e e') : Agree bad good (.error e) (.error e')
  | ok {a : α} {b : β} (same : good a b) : Agree bad good (.ok a) (.ok b)

theorem Agree.refl {ε α : Type} {bad : ε → ε → Prop} (akin : ∀ e, bad e e) (result : Except ε α) :
    Agree bad Eq result result := by
  cases result with
  | error e => exact .error (akin e)
  | ok value => exact .ok rfl

/-- Replies to a call that differ in the texts of errors only. -/
def Call.Akin : (call : Call) → call.Reply → call.Reply → Prop
  | .append _ => Agree StoreError.Akin Eq
  | .query .. => Agree StoreError.Akin Eq
  | .friendsOf _ => Agree StoreError.Akin Eq
  | .users => Agree StoreError.Akin Eq
  | .exists _ => Agree CacheError.Akin Eq
  | .read .. => Agree CacheError.Akin Eq
  | .push .. => Agree CacheError.Akin Eq
  | .prepend .. => Agree CacheError.Akin Eq
  | .trim .. => Agree CacheError.Akin Eq
  | .rebuild .. => Agree CacheError.Akin Eq
  | .publish .. => Agree Live.NotifyError.Akin Eq
  | .ping => Agree DatabaseError.Akin Eq
  | .subscribe _ | .mint => Eq

theorem Call.Akin.refl (call : Call) (reply : call.Reply) : call.Akin reply reply := by
  cases call with
  | append | query | friendsOf | users => exact Agree.refl StoreError.Akin.refl reply
  | publish => exact Agree.refl Live.NotifyError.Akin.refl reply
  | ping => exact Agree.refl (fun e => .intro e e) reply
  | subscribe | mint => exact rfl
  | _ => exact Agree.refl CacheError.Akin.refl reply

/-! ### Tasks -/

/-- Two tasks that do the same and tell the same events as long as the replies that they get are akin. -/
inductive Task.Twin {α β : Type} (good : α → β → Prop) : Task α → Task β → Prop
  | done {a : α} {b : β} (same : good a b) : Twin good (.done a) (.done b)
  | event {e : Event} {t : Task α} {u : Task β} (later : Twin good t u) :
      Twin good (.tell (.event e) t) (.tell (.event e) u)
  /-- They may log other texts, but not what counts for something else. -/
  | remark {r q : Remark} {t : Task α} {u : Task β} (counted : ∀ metrics : Metrics, metrics.remark r = metrics.remark q)
      (later : Twin good t u) : Twin good (.tell (.remark r) t) (.tell (.remark q) u)
  | ask {call : Call} {f : call.Reply → Task α} {g : call.Reply → Task β}
      (later : ∀ reply reply', call.Akin reply reply' → Twin good (f reply) (g reply')) :
      Twin good (.ask call f) (.ask call g)
  | askWithin {limit : Span} {call : Call} {f : Option call.Reply → Task α} {g : Option call.Reply → Task β}
      (later : ∀ reply reply', Option.Rel call.Akin reply reply' → Twin good (f reply) (g reply')) :
      Twin good (.askWithin limit call f) (.askWithin limit call g)

theorem Task.Twin.bind {α β γ δ : Type} {good : α → β → Prop} {fine : γ → δ → Prop} {t : Task α} {u : Task β}
    {f : α → Task γ} {g : β → Task δ} (first : t.Twin good u) (second : ∀ a b, good a b → (f a).Twin fine (g b)) :
    (t.bind f).Twin fine (u.bind g) := by
  induction first with
  | done same => exact second _ _ same
  | event _ ih => exact .event ih
  | remark counted _ ih => exact .remark counted ih
  | ask _ ih => exact .ask fun reply reply' akin => ih reply reply' akin
  | askWithin _ ih => exact .askWithin fun reply reply' akin => ih reply reply' akin

/-! ### What the warmer makes of errors -/

inductive WarmError.Akin : WarmError → WarmError → Prop
  | directory {e e' : StoreError} (akin : e.Akin e') : Akin (.directory e) (.directory e')
  | friends {e e' : StoreError} (akin : e.Akin e') : Akin (.friends e) (.friends e')
  | posts {e e' : StoreError} (akin : e.Akin e') : Akin (.posts e) (.posts e')
  | cache {e e' : CacheError} (akin : e.Akin e') : Akin (.cache e) (.cache e')

inductive Warmed.Akin : Warmed → Warmed → Prop
  | intro (user : UserId) {result other : Except WarmError Unit} (same : Agree WarmError.Akin Eq result other) :
      Akin ⟨user, result⟩ ⟨user, other⟩

/-- Reports on the same users. -/
structure WarmReport.Akin (report other : WarmReport) : Prop where
  warmed : report.warmed = other.warmed
  failed : report.failures.map (·.user) = other.failures.map (·.user)

/-- Two stages that come to answers of some kind, whatever the texts are of the errors in between. -/
inductive Stage.Akin {α β : Type} (good : α → β → Prop) : Stage α → Stage β → Prop
  | answer {a : α} {b : β} (same : good a b) : Akin good (.answer a) (.answer b)
  | warmEach (users : List UserId) {finish : List Warmed → Task α} {finish' : List Warmed → Task β}
      (later : ∀ results others, List.Forall₂ Warmed.Akin results others → (finish results).Twin good (finish' others)) :
      Akin good (.warmEach users finish) (.warmEach users finish')

section
variable {α β γ δ : Type} {good : α → β → Prop} {fine : γ → δ → Prop}

theorem Task.Twin.ofTask {t : Task α} {u : Task β} (twin : t.Twin good u) :
    (Plan.ofTask t).Twin (Stage.Akin good) (Plan.ofTask u) := twin.bind fun _ _ same => .done (.answer same)

theorem Task.Twin.andThen {plan : Plan α} {other : Plan β} {f : α → Task γ} {g : β → Task δ}
    (first : plan.Twin (Stage.Akin good) other) (second : ∀ a b, good a b → (f a).Twin fine (g b)) :
    (plan.andThen f).Twin (Stage.Akin fine) (other.andThen g) := by
  refine first.bind ?_
  rintro _ _ (same | ⟨users, later⟩)
  · exact (second _ _ same).ofTask
  · exact .done (.warmEach users fun results others akin => (later results others akin).bind second)

end

namespace Warmer

theorem twin_warmUser (w : Warmer) (user : UserId) :
    (w.warmUser user).Twin (Agree WarmError.Akin Eq) (w.warmUser user) := by
  rw [warmUser_eq]
  refine .ask ?_
  rintro _ _ (akin | rfl)
  · exact .done (.error (.friends akin))
  refine .ask ?_
  rintro _ _ (akin | rfl)
  · exact .done (.error (.posts akin))
  refine .ask ?_
  rintro _ _ (akin | rfl)
  · exact .done (.error (.cache akin))
  · exact .done (.ok rfl)

theorem twin_summarize {results others : List Warmed} (akin : List.Forall₂ Warmed.Akin results others) :
    (summarize results).Twin WarmReport.Akin (summarize others) := by
  induction akin with
  | nil => exact .done ⟨rfl, rfl⟩
  | cons first _ ih =>
    obtain ⟨user, akin | rfl⟩ := first
    · refine .remark (fun _ => rfl) (ih.bind ?_)
      intro report other akin
      exact .done ⟨akin.warmed, congrArg (user :: ·) akin.failed⟩
    · refine ih.bind ?_
      intro report other akin
      exact .done ⟨congrArg (· + 1) akin.warmed, akin.failed⟩

/-- Warm runs fail for the same users, and are counted alike. -/
theorem twin_warmAll (w : Warmer) :
    w.warmAll.Twin (Stage.Akin (Agree WarmError.Akin WarmReport.Akin)) w.warmAll := by
  refine .remark (fun _ => rfl) (.ask ?_)
  rintro _ _ (akin | rfl)
  · exact .done (.answer (.error (.directory akin)))
  refine .done (.warmEach _ fun results others akin => (twin_summarize akin).bind ?_)
  intro report other akin
  exact .remark (fun _ => rfl) (.done (.ok akin))

end Warmer

/-! ### What the service makes of errors -/

inductive Fanout.Cause.Akin : Fanout.Cause → Fanout.Cause → Prop
  | cache {e e' : CacheError} (akin : e.Akin e') : Akin (.cache e) (.cache e')
  | notify {e e' : Live.NotifyError} (akin : e.Akin e') : Akin (.notify e) (.notify e')
  | timeout (limit : Span) : Akin (.timeout limit) (.timeout limit)

structure Fanout.Failure.Akin (failure other : Fanout.Failure) : Prop where
  friend : failure.friend = other.friend
  step : failure.step = other.step
  cause : failure.cause.Akin other.cause

structure Fanout.Partial.Akin (report other : Fanout.Partial) : Prop where
  post : report.post = other.post
  delivered : report.delivered = other.delivered
  failures : List.Forall₂ Fanout.Failure.Akin report.failures other.failures
  skipped : report.skipped = other.skipped

inductive Fanout.Outcome.Akin : Fanout.Outcome → Fanout.Outcome → Prop
  | success (delivered : List UserId) : Akin (.success delivered) (.success delivered)
  | incomplete {report other : Fanout.Partial} (akin : report.Akin other) : Akin (.incomplete report) (.incomplete other)

inductive FeedError.Akin : FeedError → FeedError → Prop
  | storageUnavailable {e e' : StoreError} (akin : e.Akin e') : Akin (.storageUnavailable e) (.storageUnavailable e')
  | duplicatePost (post : PostId) : Akin (.duplicatePost post) (.duplicatePost post)
  | friendGraphUnavailable (user : UserId) {e e' : StoreError} (akin : e.Akin e') :
      Akin (.friendGraphUnavailable user e) (.friendGraphUnavailable user e')
  | partialFanout {report other : Fanout.Partial} (akin : report.Akin other) :
      Akin (.partialFanout report) (.partialFanout other)
  | timeout (operation : Operation) (limit : Span) : Akin (.timeout operation limit) (.timeout operation limit)
  | corruptEntry (e : CacheError) : Akin (.corruptEntry e) (.corruptEntry e)
  | validation (text : String) : Akin (.validation text) (.validation text)

namespace Service

inductive CachedRead.Akin : CachedRead → CachedRead → Prop
  | absent : Akin .absent .absent
  | unavailable (reason other : String) : Akin (.unavailable reason) (.unavailable other)
  | corrupt (error : CacheError) : Akin (.corrupt error) (.corrupt error)
  | posts (posts : List Post) : Akin (.posts posts) (.posts posts)

structure Reach.Akin (reach other : Reach) : Prop where
  delivered : reach.delivered = other.delivered
  failures : List.Forall₂ Fanout.Failure.Akin reach.failures other.failures
  skipped : reach.skipped = other.skipped

/-! ### The service -/

variable (s : Service)

theorem twin_within (operation : Operation) (call : Call) :
    (s.within operation call).Twin (Agree FeedError.Akin call.Akin) (s.within operation call) := by
  refine .askWithin ?_
  rintro _ _ (akin | _)
  · exact .done (.ok akin)
  · exact .done (.error (.timeout operation s.limit))

theorem twin_friendsOf (user : UserId) : (s.friendsOf user).Twin (Agree FeedError.Akin Eq) (s.friendsOf user) := by
  refine (s.twin_within .friends (.friendsOf user)).bind ?_
  rintro _ _ (akin | ⟨akin | rfl⟩)
  · exact .done (.error akin)
  · exact .done (.error (.friendGraphUnavailable user akin))
  · exact .done (.ok rfl)

theorem twin_served (user : UserId) (page : FeedPage) :
    (served user page).Twin (Agree FeedError.Akin Eq) (served user page) := .event (.done (.ok rfl))

theorem twin_readStored (user : UserId) (window : Window) :
    (s.readStored user window).Twin (Agree FeedError.Akin Eq) (s.readStored user window) := by
  refine (s.twin_friendsOf user).bind ?_
  rintro _ _ (akin | rfl)
  · exact .done (.error akin)
  refine (s.twin_within .query _).bind ?_
  rintro _ _ (akin | ⟨akin | rfl⟩)
  · exact .done (.error akin)
  · exact .done (.error (.storageUnavailable akin))
  · exact twin_served user _

theorem twin_readCached (user : UserId) (window : Window) :
    (s.readCached user window).Twin CachedRead.Akin (s.readCached user window) := by
  refine (s.twin_within .exists (.exists user)).bind ?_
  rintro _ _ (akin | ⟨akin | rfl⟩)
  · exact .done (.unavailable ..)
  · exact .done (.unavailable ..)
  rename_i isThere
  cases isThere with
  | false => exact .done .absent
  | true =>
    refine (s.twin_within .read _).bind ?_
    rintro _ _ (akin | ⟨akin | rfl⟩)
    · exact .done (.unavailable ..)
    · exact .done (.unavailable ..)
    rename_i entries
    dsimp only
    cases decodeAll entries with
    | error e => exact .done (.corrupt e)
    | ok posts => exact .done (.posts posts)

theorem twin_feedPage (user : UserId) (window : Window) :
    (s.feedPage user window).Twin (Agree FeedError.Akin Eq) (s.feedPage user window) := by
  unfold feedPage
  split
  · refine (s.twin_readCached user window).bind ?_
    rintro _ _ (_ | ⟨reason, other⟩ | e | posts)
    · exact s.twin_readStored user window
    · exact .remark (fun _ => rfl) (.event (s.twin_readStored user window))
    · exact .done (.error (.corruptEntry e))
    · exact twin_served user _
  · exact s.twin_readStored user window

theorem twin_deliver (post : Post) (entry : FeedEntry) (friend : UserId) :
    (s.deliver post entry friend).Twin (Option.Rel Fanout.Failure.Akin) (s.deliver post entry friend) := by
  refine .askWithin ?_
  rintro _ _ (⟨akin | rfl⟩ | _)
  · exact .done (.some ⟨rfl, rfl, .cache akin⟩)
  · refine .askWithin ?_
    rintro _ _ (⟨akin | rfl⟩ | _)
    · exact .done (.some ⟨rfl, rfl, .notify akin⟩)
    · exact .done .none
    · exact .done (.some ⟨rfl, rfl, .timeout s.limit⟩)
  · exact .done (.some ⟨rfl, rfl, .timeout s.limit⟩)

theorem twin_reach (post : Post) (entry : FeedEntry) (friends : List UserId) :
    (s.reach post entry friends).Twin Reach.Akin (s.reach post entry friends) := by
  induction friends with
  | nil => exact .done ⟨rfl, .nil, rfl⟩
  | cons friend rest ih =>
    refine (s.twin_deliver post entry friend).bind ?_
    rintro _ _ (@⟨failure, other, akin⟩ | _)
    · obtain ⟨name, step, cause⟩ := failure
      obtain ⟨_, _, other⟩ := other
      obtain ⟨rfl, rfl, same⟩ := akin
      refine .event (.remark (fun _ => rfl) ?_)
      dsimp only
      cases s.policy with
      | failFast => exact .done ⟨rfl, .cons ⟨rfl, rfl, same⟩ .nil, rfl⟩
      | bestEffort =>
        refine ih.bind ?_
        rintro later later' ⟨delivered, failures, skipped⟩
        exact .done ⟨delivered, .cons ⟨rfl, rfl, same⟩ failures, skipped⟩
    · refine .event (ih.bind ?_)
      rintro later later' ⟨delivered, failures, skipped⟩
      exact .done ⟨congrArg (friend :: ·) delivered, failures, skipped⟩

theorem Reach.Akin.akin_outcome {reach other : Reach} (akin : reach.Akin other) (post : Post) :
    (reach.outcome post).Akin (other.outcome post) := by
  obtain ⟨delivered, failures, skipped⟩ := reach
  obtain ⟨_, failures', _⟩ := other
  obtain ⟨rfl, all, rfl⟩ := akin
  cases all with
  | nil => exact .success delivered
  | cons first rest => exact .incomplete ⟨rfl, rfl, .cons first rest, rfl⟩

theorem twin_fanout (post : Post) (friends : List UserId) :
    (s.fanout post friends).Twin (Agree FeedError.Akin Fanout.Outcome.Akin) (s.fanout post friends) := by
  rw [fanout_eq]
  refine (s.twin_reach post _ _).bind ?_
  intro reach other akin
  rw [akin.delivered, akin.skipped]
  exact .event (.done (.ok (akin.akin_outcome post)))

theorem twin_spread (author : UserId) (post : Post) :
    (s.spread author post).Twin (Agree FeedError.Akin Eq) (s.spread author post) := by
  refine (s.twin_friendsOf author).bind ?_
  rintro _ _ (akin | rfl)
  · exact .done (.error akin)
  refine (s.twin_fanout post _).bind ?_
  rintro _ _ (akin | ⟨delivered | akin⟩)
  · exact .done (.error akin)
  · exact .remark (fun _ => rfl) (.done (.ok rfl))
  · exact .remark (fun _ => rfl) (.done (.error (.partialFanout akin)))

theorem akin_refused (post : Post) {e e' : StoreError} (akin : e.Akin e') : (refused post e).Akin (refused post e') := by
  cases akin with
  | duplicate => exact .duplicatePost post.id
  | persistence | invalidInput | integrity | timeout => exact .storageUnavailable (by constructor)

theorem twin_createPost (author : UserId) (post : Post) :
    (s.createPost author post).Twin (Agree FeedError.Akin Eq) (s.createPost author post) := by
  unfold createPost
  split
  · exact .done (.error (.validation _))
  · refine (s.twin_within .append (.append post)).bind ?_
    rintro _ _ (akin | ⟨akin | rfl⟩)
    · exact .done (.error akin)
    · exact .done (.error (akin_refused post akin))
    · exact .event (s.twin_spread author post)

end Service

/-! ### Replies to clients -/

namespace Http

/-- Replies that a client cannot tell apart. -/
structure Reply.Akin (reply other : Reply) : Prop where
  status : reply.status = other.status
  body : reply.body = other.body
  source : reply.source = other.source
  allow : reply.allow = other.allow
  headOnly : reply.headOnly = other.headOnly

theorem Reply.Akin.refl (reply : Reply) : reply.Akin reply := ⟨rfl, rfl, rfl, rfl, rfl⟩

/-- An error shows in a reply only by its report. -/
theorem akin_failed (status : Nat) (text source : String) (chain chain' : List String) :
    (Reply.failed status text source chain).Akin (.failed status text source chain') := ⟨rfl, rfl, rfl, rfl, rfl⟩

theorem akin_ofFeedError {e e' : FeedError} (akin : e.Akin e') : (Reply.ofFeedError e).Akin (.ofFeedError e') := by
  cases akin <;> exact akin_failed ..

theorem twin_withViewer (r : Request) {handle : UserId → Task Reply}
    (twin : ∀ user, (handle user).Twin Reply.Akin (handle user)) :
    (withViewer r handle).Twin Reply.Akin (withViewer r handle) := by
  unfold withViewer
  split
  · exact .done (.refl _)
  · exact twin _

theorem twin_getFeed (s : Service) (r : Request) : (getFeed s r).Twin Reply.Akin (getFeed s r) := by
  refine twin_withViewer r fun user => ?_
  split
  · exact .done (.refl _)
  split
  · exact .done (.refl _)
  · refine (s.twin_feedPage user _).bind ?_
    rintro _ _ (akin | rfl)
    · exact .done (akin_ofFeedError akin)
    · exact .done (.refl _)

theorem twin_createPost (s : Service) (r : Request) : (createPost s r).Twin Reply.Akin (createPost s r) := by
  refine twin_withViewer r fun user => ?_
  split
  · exact .done (.refl _)
  split
  · exact .done (.refl _)
  · refine .ask ?_
    rintro post _ rfl
    refine (s.twin_createPost user _).bind ?_
    rintro _ _ (akin | rfl)
    · exact .done (akin_ofFeedError akin)
    · exact .done (.refl _)

/-- An error is logged with its report, which the reply does not give away. -/
theorem twin_logReply (r : Request) {reply other : Reply} (akin : reply.Akin other) :
    (logReply r reply).Twin Reply.Akin (logReply r other) := by
  have same : reply.isError = other.isError := by rw [Reply.isError, akin.status, Reply.isError]
  unfold logReply Reply.failure?
  rw [same]
  cases other.isError with
  | true => exact .remark (fun _ => rfl) (.done akin)
  | false => exact .done akin

theorem twin_watch (r : Request) : (watch r).Twin Reply.Akin (watch r) := by
  refine twin_withViewer r fun user => .ask ?_
  rintro stream _ rfl
  exact .remark (fun _ => rfl) (.done (.refl _))

theorem twin_health : health.Twin Reply.Akin health := by
  refine .ask ?_
  rintro _ _ (⟨-⟩ | rfl)
  · exact .done ⟨rfl, rfl, rfl, rfl, rfl⟩
  · exact .done (.refl _)

theorem twin_answer (s : Service) (w : Warmer) {r : Request} (other : Route.ofPath? r.target.path ≠ some .warm) :
    (answer s w r).Twin (Stage.Akin Reply.Akin) (answer s w r) := by
  unfold answer
  split
  · exact .done (.answer (.refl _))
  next route found =>
    split
    · cases route with
      | feed => exact (twin_getFeed s r).ofTask
      | create => exact (twin_createPost s r).ofTask
      | posted => exact (twin_watch r).ofTask
      | health => exact twin_health.ofTask
      | warm => exact absurd found other
    · exact .done (.answer (.refl _))

/-- Whoever sends a request finds nothing of the texts of errors in the reply, unless it is for a warm run. -/
theorem twin_serve (s : Service) (w : Warmer) {r : Request} (other : Route.ofPath? r.target.path ≠ some .warm) :
    (serve s w r).Twin (Stage.Akin Reply.Akin) (serve s w r) := by
  refine (twin_answer s w other).andThen ?_
  intro reply reply' akin
  refine (twin_logReply r akin).bind ?_
  intro reply reply' akin
  exact .done ⟨akin.status, akin.body, akin.source, akin.allow, rfl⟩

end Http
end FeedFanout
