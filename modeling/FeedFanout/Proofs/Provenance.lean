import FeedFanout.Proofs.Refusals
import FeedFanout.Proofs.WireForm

/-!
Where posts come from. Requests are served one after the other (`Http.Served`), and calls may fail without effect as
long as none pretends that an identifier is in use (`World.Stumbles`). If no identifier is given out twice, every post
in the store goes back to the one request that asked for it, and no creation is refused (`Http.provenance`).
-/
namespace FeedFanout

/-! ### Faults that do not lie -/

/-- A call is performed, or fails, or is not answered in its time. In the last two cases it has no effect, and it is not
said that an identifier is in use. -/
inductive World.Stumbles : Manner
  | performed (w : World) (call : Call) : Stumbles w ⟨call, some (w.perform call).reply⟩ (w.perform call).world
  | failed {call : Call} {trouble : Simulation.Trouble} {reply : call.Reply} (w : World)
      (fits : trouble.reply? call = some reply) (honest : ∀ constraint, trouble ≠ .store (.duplicate constraint)) :
      Stumbles w ⟨call, some reply⟩ w
  | late (w : World) (call : Call) : Stumbles w ⟨call, none⟩ w

namespace World
variable {w w' : World}

theorem Stumbles.falters {made : Made} (stumbles : Stumbles w made w') : Falters w made w' := by
  cases stumbles with
  | performed => exact .performed ..
  | failed _ fits => exact .failed _ fits
  | late => exact .late ..

theorem Stumbles.used {post : Post} {constraint : String}
    (stumbles : Stumbles w ⟨.append post, some (.error (.duplicate constraint))⟩ w') : post.id ∈ w.log.taken := by
  generalize same : Made.mk (.append post) (some (.error (.duplicate constraint))) = made at stumbles
  cases stumbles with
  | performed _ call =>
    obtain rfl : .append post = call := congrArg Made.call same
    by_contra fresh
    rw [perform_append, if_neg fresh] at same
    cases same
  | @failed call trouble reply _ fits honest =>
    cases same
    cases trouble <;> cases fits
    exact absurd rfl (honest constraint)
  | late => cases same

/-- Identifiers are given out in the same order, and more of them. -/
structure Later (w w' : World) : Prop where
  supply : w'.supply = w.supply
  minted : w.minted ≤ w'.minted

theorem Later.refl (w : World) : Later w w := ⟨rfl, Nat.le_refl _⟩

theorem Later.trans {w₁ w₂ w₃ : World} (first : Later w₁ w₂) (second : Later w₂ w₃) : Later w₁ w₃ :=
  ⟨second.supply.trans first.supply, first.minted.trans second.minted⟩

theorem later_perform (w : World) (call : Call) : Later w (w.perform call).world := by
  cases call with
  | append => rw [perform_append]; split <;> exact ⟨rfl, Nat.le_refl _⟩
  | publish => simp only [perform]; split <;> exact ⟨rfl, Nat.le_refl _⟩
  | subscribe => simp only [perform]; split <;> exact ⟨rfl, Nat.le_refl _⟩
  | mint => exact ⟨rfl, Nat.le_succ _⟩
  | _ => exact ⟨rfl, Nat.le_refl _⟩

theorem Plays.later {calls : List Made} (plays : Plays Falters w calls w') : Later w w' := by
  refine plays.keeps (Later w) (.refl w) ?_
  intro made member w₁ w₂ before falters
  obtain ⟨call, -, rfl, -⟩ | ⟨-, rfl⟩ := falters.effect
  · exact before.trans (later_perform ..)
  · exact before

/-- No identifier was given out twice. -/
def Distinct (w : World) : Prop := ∀ m < w.minted, ∀ n < w.minted, w.supply m = w.supply n → m = n

theorem Distinct.of_later (distinct : w'.Distinct) (later : Later w w') : w.Distinct := by
  intro m first n second same
  refine distinct m (first.trans_le later.minted) n (second.trans_le later.minted) ?_
  rwa [later.supply]

/-- The store is in order, and all posts have identifiers that were given out. -/
structure Numbered (w : World) : Prop where
  exact : w.log.Exact
  known : ∀ post ∈ w.log.posts, ∃ n < w.minted, w.supply n = post.id

/-- The next identifier is not in use. -/
theorem Numbered.fresh (numbered : w.Numbered) (distinct : w'.Distinct) (later : Later w w')
    (more : w.minted < w'.minted) : w.supply w.minted ∉ w.log.taken := by
  intro used
  obtain ⟨post, member, same⟩ := (numbered.exact.taken _).mp used
  obtain ⟨n, before, given⟩ := numbered.known post member
  have again : n = w.minted := by
    refine distinct n (before.trans more) w.minted more ?_
    rw [later.supply, given, same]
  exact absurd again before.ne

theorem Numbered.plays {calls : List Made} (numbered : w.Numbered) (plays : Plays Falters w calls w')
    (known : ∀ post ∈ appendedIn calls, ∃ n < w'.minted, w.supply n = post.id) : w'.Numbered := by
  refine ⟨plays.exact numbered.exact, ?_⟩
  intro post member
  rw [plays.later.supply]
  rw [plays.posts, List.mem_append] at member
  obtain appended | old := member
  · exact known post appended
  · obtain ⟨n, before, given⟩ := numbered.known post old
    exact ⟨n, before.trans_le plays.later.minted, given⟩

end World

theorem mem_appendedIn {post : Post} {calls : List Made} :
    post ∈ appendedIn calls ↔ ⟨.append post, some (.ok ())⟩ ∈ calls := by
  rw [appendedIn, List.mem_reverse, List.mem_filterMap]
  constructor
  · rintro ⟨⟨call, reply⟩, member, stored⟩
    obtain ⟨rfl, good⟩ := Made.stored?_eq_some.mp stored
    obtain _ | e | done := reply
    · cases good
    · cases good
    · exact member
  · exact fun member => ⟨_, member, rfl⟩

namespace Service
variable {s : Service} {post : Post} {calls : List Made}

/-- What is stored by a creation is the post. -/
theorem Steps.alone (steps : s.Steps post calls) {other : Post}
    (member : ⟨.append other, some (.ok ())⟩ ∈ calls) : other = post := by
  obtain same | same | ⟨user, same⟩ | ⟨user, same⟩ := steps.among member <;> cases same
  rfl

/-- A creation that was not said to be a duplicate is not refused, and one that is answered as done, or as done in part,
has stored the post. -/
structure Told (post : Post) (calls : List Made) (answer : Except FeedError PostId) : Prop where
  fair : Fair answer
  stored : (Http.createdReply answer).status ≠ 503 → ⟨.append post, some (.ok ())⟩ ∈ calls
  named : ∀ id, answer = .ok id → id = post.id

theorem Answers.told {answer : Except FeedError PostId} (answers : s.Answers post calls answer)
    (honest : ∀ constraint, ⟨.append post, some (.error (.duplicate constraint))⟩ ∉ calls) :
    Told post calls answer := by
  cases answers with
  | @unstored reply error bad =>
    obtain _ | e | done := reply <;> cases bad
    · exact ⟨Fair.error id, fun other => absurd rfl other, nofun⟩
    · cases e with
      | duplicate constraint => exact absurd List.mem_cons_self (honest constraint)
      | _ => exact ⟨Fair.error id, fun other => absurd rfl other, nofun⟩
  | unlisted bad =>
    rename_i reply error
    exact ⟨(Answers.unlisted bad).fair, fun _ => List.mem_cons_self, nofun⟩
  | @reached friends calls reach reports =>
    refine ⟨(Answers.reached reports).fair, fun _ => List.mem_cons_self, ?_⟩
    intro id answered
    exact (Reach.answer_ok_iff.mp answered).1

end Service

namespace Http
variable {s : Service} {wm : Warmer} {w : World}

/-- The identifier that is given out is the next one. -/
theorem minted {id : PostId} {w' : World} (met : World.Stumbles w ⟨.mint, some id⟩ w') :
    id = w.supply w.minted ∧ w' = { w with minted := w.minted + 1 } := by
  obtain ⟨call, same, rfl, -⟩ | ⟨bad, -⟩ := met.falters.effect
  · cases same
    exact ⟨rfl, rfl⟩
  · cases bad

/-- A creation is not said to be a duplicate if its identifier is fresh. -/
theorem honest_creation {post : Post} {calls : List Made} {w' : World} (plays : World.Plays World.Stumbles w calls w')
    (steps : s.Steps post calls) (fresh : post.id ∉ w.log.taken) (constraint : String) :
    ⟨.append post, some (.error (.duplicate constraint))⟩ ∉ calls := by
  intro member
  cases steps with
  | begun => cases member
  | appended reply =>
    cases List.mem_singleton.mp member
    obtain _ | ⟨met, -⟩ := plays
    exact fresh met.used
  | asked reply => simp at member
  | reached friends pushes => simp [pushes.append_notMem] at member

/-- What is done for a request to create a post, if no identifier is given out twice. -/
theorem does_creation_told {author : UserId} {text : String} {course : Course (Except FeedError PostId)}
    (does : (creation s author text).Does World.Stumbles w course) (numbered : w.Numbered)
    (distinct : course.world.Distinct) :
    course.world.Numbered ∧ ∃ post : Post, post.author = author ∧ post.text = text ∧
      (∀ other, ⟨.append other, some (.ok ())⟩ ∈ course.calls → other = post) ∧
      ∀ answer, course.answer = some answer → Service.Told post course.calls answer := by
  have plays := does.plays.mono World.Stumbles.falters
  cases does with
  | left => exact ⟨numbered, ⟨default, author, text⟩, rfl, rfl, nofun, nofun⟩
  | @ask _ _ id _ w' course met later =>
    obtain ⟨rfl, rfl⟩ := minted met
    obtain ⟨rest, goes, ended⟩ := later.goes
    have steps := (Service.goes_createPost goes).1
    have more : w.minted < course.world.minted := (later.plays.mono World.Stumbles.falters).later.minted
    have honest := honest_creation later.plays steps (numbered.fresh distinct plays.later more)
    have only : ∀ other, ⟨.append other, some (.ok ())⟩ ∈ (course.call ⟨.mint, some (w.supply w.minted)⟩).calls →
        other = ⟨w.supply w.minted, author, text⟩ := by
      intro other member
      obtain same | member := List.mem_cons.mp member
      · cases same
      · exact steps.alone member
    refine ⟨numbered.plays plays ?_, ⟨w.supply w.minted, author, text⟩, rfl, rfl, only, ?_⟩
    · intro other appended
      rw [only other (mem_appendedIn.mp appended)]
      exact ⟨w.minted, more, rfl⟩
    · intro answer answered
      obtain rfl := ended answer answered
      obtain ⟨-, answers⟩ | ⟨other, -⟩ := Service.goes_answers goes
      · obtain ⟨fair, stored, named⟩ := answers.told honest
        exact ⟨fair, fun fine => List.mem_cons_of_mem _ (stored fine), named⟩
      · exact absurd rfl other

/-! ### Exchanges -/

/-- A request, and all that was done for it. -/
structure Exchange where
  request : Request
  course : Course Reply

/-- Requests served one after the other. Each may be given up at any point. -/
inductive Served (manner : Manner) (s : Service) (wm : Warmer) (start : World) : List Exchange → World → Prop
  | nobody : Served manner s wm start [] start
  | next {exchanges : List Exchange} {w : World} {r : Request} {course : Course Reply}
      (before : Served manner s wm start exchanges w) (does : Plan.Does manner wm (serve s wm r) w course) :
      Served manner s wm start (exchanges ++ [⟨r, course⟩]) course.world

/-- The request is for the creation of this post: its author is the user that the header names, and its text, which is
not blank, the one that the body says. -/
structure Request.Gives (r : Request) (post : Post) : Prop extends r.Creates where
  author : ∃ raw : String, r.header? "x-user-id" = some raw.toUTF8 ∧ UserId.parse raw = .ok post.author
  text : requestFormat.read (Text.Utf8.read r.body) = .ok (some post.text)
  filled : ∃ c ∈ post.text.toList, Text.isBlank c = false

/-- The reply to an error of the service, whole or without its body. -/
def Reply.Tells (reply : Reply) (error : FeedError) : Prop :=
  ∃ headOnly, reply = { Reply.ofFeedError error with headOnly }

/-- In the course of an exchange this post was stored. -/
def Exchange.Stores (e : Exchange) (post : Post) : Prop := ⟨.append post, some (.ok ())⟩ ∈ e.course.calls

/-- What is stored was asked for, and the reply tells of it. -/
structure Exchange.Sound (e : Exchange) : Prop where
  given : ∀ post, e.Stores post → e.request.Gives post
  stored : e.request.Creates → ∀ reply, e.course.answer = some reply → reply.status = 200 ∨ reply.status = 500 →
    ∃ post, e.Stores post ∧ (reply.status = 200 → reply.body = .json (createdBody post.id))
  fair : ∀ reply, e.course.answer = some reply → ∀ error, reply.Tells error →
    (∀ message, error ≠ .validation message) ∧ ∀ id, error ≠ .duplicatePost id

theorem Request.Asks.gives {r : Request} {post : Post} (asks : r.Asks post.author post.text) : r.Gives post := by
  obtain ⟨creates, author, requested, filled⟩ := asks
  obtain ⟨raw, given, -, parsed⟩ := viewer_ok author
  refine ⟨creates, ⟨raw, given, parsed⟩, ?_, ?_⟩
  · unfold requestedText at requested
    extract_lets isJson at requested
    split at requested
    · cases requested
    split at requested
    · cases requested
    split at requested
    · cases requested
    rename_i draft read
    obtain _ | text := draft
    · have empty : "" = post.text := Except.ok.inj requested
      rw [← empty] at filled
      cases filled
    · have same : text = post.text := Except.ok.inj requested
      rw [← same]
      exact read
  · unfold Text.onlyBlank at filled
    simpa using filled

theorem Reply.Tells.fair {reply : Reply} {error : FeedError} (tells : reply.Tells error)
    (unrefused : reply.Early ∨ reply.Blameless) :
    (∀ message, error ≠ .validation message) ∧ ∀ id, error ≠ .duplicatePost id := by
  obtain ⟨headOnly, rfl⟩ := tells
  obtain early | blameless := unrefused
  · exact absurd rfl (early.report error)
  · refine ⟨?_, ?_⟩
    · rintro message rfl
      exact blameless (show 400 ≤ 400 ∧ 400 < 500 by decide)
    · rintro id rfl
      exact blameless (show 400 ≤ 409 ∧ 409 < 500 by decide)

theorem blameless_createdReply {answer : Except FeedError PostId} (fair : Fair answer) :
    (createdReply answer).Blameless := by
  cases answer with
  | error e => exact blameless_ofFeedError (fair e rfl)
  | ok id => simp [createdReply, Reply.Blameless]

/-- What is left of a reply when it is sent. -/
def Reply.sent (r : Request) (reply : Reply) : Reply := { reply with headOnly := decide (r.method = "HEAD") }

theorem Exchange.Sound.sent {r : Request} {inner course : Course Reply} (sound : Exchange.Sound ⟨r, inner⟩)
    (becomes : inner.Becomes (Reply.sent r) course) : Exchange.Sound ⟨r, course⟩ := by
  have same : ∀ post, Exchange.Stores ⟨r, course⟩ post ↔ Exchange.Stores ⟨r, inner⟩ post := by
    intro post
    rw [Exchange.Stores, Exchange.Stores, becomes.calls]
  refine ⟨?_, ?_, ?_⟩
  · exact fun post stores => sound.given post ((same post).mp stores)
  · intro creates reply answered fine
    obtain ⟨held, kept, rfl⟩ := becomes.answer reply answered
    obtain ⟨post, stores, body⟩ := sound.stored creates held kept fine
    exact ⟨post, (same post).mpr stores, body⟩
  · rintro reply answered error ⟨headOnly, told⟩
    obtain ⟨held, kept, rfl⟩ := becomes.answer reply answered
    refine sound.fair held kept error ⟨held.headOnly, ?_⟩
    exact congrArg (fun reply => { reply with headOnly := held.headOnly }) told

theorem sound_created {r : Request} {author : UserId} {text : String} {inner : Course (Except FeedError PostId)}
    {course : Course Reply} (asks : r.Asks author text) (does : (creation s author text).Does World.Stumbles w inner)
    (becomes : inner.Becomes createdReply course) (numbered : w.Numbered) (distinct : course.world.Distinct) :
    course.world.Numbered ∧ Exchange.Sound ⟨r, course⟩ := by
  rw [becomes.world] at distinct ⊢
  obtain ⟨kept, post, rfl, rfl, only, told⟩ := does_creation_told does numbered distinct
  refine ⟨kept, ?_, ?_, ?_⟩
  · intro other stores
    rw [Exchange.Stores, becomes.calls] at stores
    obtain rfl := only other stores
    exact asks.gives
  · intro creates reply answered fine
    obtain ⟨answer, held, rfl⟩ := becomes.answer reply answered
    obtain ⟨fair, stored, named⟩ := told answer held
    refine ⟨post, ?_, ?_⟩
    · rw [Exchange.Stores, becomes.calls]
      exact stored (by omega)
    · intro whole
      cases answer with
      | ok id => rw [← named id rfl]; rfl
      | error e =>
        cases e with
        | validation | duplicatePost => exact absurd trivial (fair _ rfl)
        | _ => cases whole
  · intro reply answered error tells
    obtain ⟨answer, held, rfl⟩ := becomes.answer reply answered
    exact tells.fair (.inr (blameless_createdReply (told answer held).fair))

theorem sound_handled {r : Request} {course : Course Reply} (handled : Handled World.Stumbles s r w course)
    (plays : World.Plays World.Stumbles w course.calls course.world) (numbered : w.Numbered)
    (distinct : course.world.Distinct) : course.world.Numbered ∧ Exchange.Sound ⟨r, course⟩ := by
  cases handled with
  | early idles =>
    refine ⟨by rwa [idles.world], ?_, ?_, ?_⟩
    · intro post stores
      rw [Exchange.Stores, idles.calls] at stores
      cases stores
    · intro creates reply answered fine
      have client := (idles.answer reply answered).client
      omega
    · exact fun reply answered error tells => tells.fair (.inl (idles.answer reply answered))
  | other different unstored blameless =>
    have nothing : ∀ post, ⟨.append post, some (.ok ())⟩ ∉ course.calls := by
      intro post member
      cases unstored _ member
    refine ⟨numbered.plays (plays.mono World.Stumbles.falters) ?_, ?_, ?_, ?_⟩
    · exact fun post appended => absurd (mem_appendedIn.mp appended) (nothing post)
    · exact fun post stores => absurd stores (nothing post)
    · exact fun creates => absurd creates different
    · exact fun reply answered error tells => tells.fair (.inr (blameless reply answered))
  | created asks does becomes => exact sound_created asks does becomes numbered distinct

theorem sound {r : Request} {course : Course Reply} (does : Plan.Does World.Stumbles wm (serve s wm r) w course)
    (numbered : w.Numbered) (distinct : course.world.Distinct) :
    course.world.Numbered ∧ Exchange.Sound ⟨r, course⟩ := by
  obtain ⟨inner, handled, becomes⟩ := does_serve does
  have plays := does.plays
  rw [becomes.calls, becomes.world] at plays
  rw [becomes.world] at distinct ⊢
  obtain ⟨kept, sound⟩ := sound_handled handled plays numbered distinct
  exact ⟨kept, sound.sent becomes⟩

/-- What is known after some exchanges. -/
structure Traced (exchanges : List Exchange) (w : World) : Prop where
  numbered : w.Numbered
  posts : ∀ post, post ∈ w.log.posts ↔ ∃ e ∈ exchanges, e.Stores post
  once : ∀ post (i j : Nat) e e',
    exchanges[i]? = some e → exchanges[j]? = some e' → e.Stores post → e'.Stores post → i = j
  sound : ∀ e ∈ exchanges, e.Sound

theorem of_getElem?_concat {α : Type} {xs : List α} {x y : α} {i : Nat} (found : (xs ++ [x])[i]? = some y) :
    xs[i]? = some y ∨ i = xs.length ∧ y = x := by
  obtain ⟨inside, same⟩ := List.getElem?_eq_some_iff.mp found
  rw [List.length_append, List.length_singleton] at inside
  obtain before | last := Nat.lt_succ_iff_lt_or_eq.mp inside
  · rw [List.getElem?_append_left before] at found
    exact .inl found
  · subst last
    rw [List.getElem?_concat_length] at found
    exact .inr ⟨rfl, (Option.some.inj found).symm⟩

namespace Traced
variable {exchanges : List Exchange}

theorem none (empty : w.log = .empty) : Traced [] w := by
  refine ⟨⟨?_, ?_⟩, ?_, by simp, by simp⟩
  · rw [empty]
    exact .empty
  · simp [empty, PostLog.empty]
  · simp [empty, PostLog.empty]

/-- A post that is stored later was not in the store before. -/
theorem disjoint {calls : List Made} {w' : World} (plays : World.Plays World.Falters w calls w')
    (exact : w'.log.Exact) {post : Post} (appended : post ∈ appendedIn calls) : post ∉ w.log.posts := by
  intro member
  have distinct := exact.distinct
  rw [plays.posts, List.map_append] at distinct
  exact (List.nodup_append.mp distinct).2.2 _ (List.mem_map_of_mem appended) _ (List.mem_map_of_mem member) rfl

theorem next {r : Request} {course : Course Reply} (traced : Traced exchanges w)
    (does : Plan.Does World.Stumbles wm (serve s wm r) w course) (distinct : course.world.Distinct) :
    Traced (exchanges ++ [⟨r, course⟩]) course.world := by
  obtain ⟨numbered, sound⟩ := Http.sound does traced.numbered distinct
  have plays := does.plays.mono World.Stumbles.falters
  have apart : ∀ post e, e ∈ exchanges → e.Stores post → ¬Exchange.Stores ⟨r, course⟩ post := by
    intro post e member stores again
    exact disjoint plays numbered.exact (mem_appendedIn.mpr again) ((traced.posts post).mpr ⟨e, member, stores⟩)
  refine ⟨numbered, ?_, ?_, ?_⟩
  · intro post
    rw [plays.posts, List.mem_append, mem_appendedIn, traced.posts]
    simp [Exchange.Stores, or_and_right, exists_or, or_comm]
  · intro post i j e e' first second left right
    obtain first | ⟨rfl, rfl⟩ := of_getElem?_concat first
    · obtain second | ⟨-, rfl⟩ := of_getElem?_concat second
      · exact traced.once post i j e e' first second left right
      · exact absurd right (apart post e (List.mem_of_getElem? first) left)
    · obtain second | ⟨rfl, -⟩ := of_getElem?_concat second
      · exact absurd left (apart post e' (List.mem_of_getElem? second) right)
      · rfl
  · intro e member
    obtain old | new := List.mem_append.mp member
    · exact traced.sound e old
    · rw [List.mem_singleton.mp new]
      exact sound

end Traced

theorem traced {start : World} {exchanges : List Exchange} (served : Served World.Stumbles s wm start exchanges w)
    (empty : start.log = .empty) (distinct : w.Distinct) : Traced exchanges w := by
  induction served with
  | nobody => exact .none empty
  | next before does ih =>
    exact (ih (distinct.of_later (does.plays.mono World.Stumbles.falters).later)).next does distinct

/-- Every post in the store was put there by one of the requests served, which asked for it, and what was asked for was
stored unless the reply says otherwise. No reply says that a creation was invalid or its identifier in use. -/
theorem provenance {start : World} {exchanges : List Exchange} (served : Served World.Stumbles s wm start exchanges w)
    (empty : start.log = .empty) (distinct : w.Distinct) :
    (∀ post ∈ w.log.posts, ∃! i : Nat, ∃ e, exchanges[i]? = some e ∧ e.Stores post) ∧
      ∀ e ∈ exchanges, e.Sound ∧ ∀ post, e.Stores post → post ∈ w.log.posts := by
  have traced := traced served empty distinct
  refine ⟨?_, ?_⟩
  · intro post member
    obtain ⟨e, among, stores⟩ := (traced.posts post).mp member
    obtain ⟨i, found⟩ := List.mem_iff_getElem?.mp among
    refine ⟨i, ⟨e, found, stores⟩, ?_⟩
    rintro j ⟨e', found', stores'⟩
    exact traced.once post j i e' e found' found stores' stores
  · exact fun e among => ⟨traced.sound e among, fun post stores => (traced.posts post).mpr ⟨e, among, stores⟩⟩

/-- A request for one post. -/
def greeting : Request := creationOf "\x7b\"text\":\"hi\"\x7d".toUTF8

theorem provenance_greeting :
    ∃ course w, Served World.Stumbles {} ⟨1, 1⟩ (.empty 1 .ofNat) [⟨greeting, course⟩] w ∧
      w.log.posts = [⟨.ofNat 0, .ofNat 2, "hi"⟩] ∧
      (∀ post ∈ w.log.posts, ∃! i : Nat, ∃ e, [⟨greeting, course⟩][i]? = some e ∧ Exchange.Stores e post) ∧
      Exchange.Sound ⟨greeting, course⟩ := by
  have asks : greeting.Asks (.ofNat 2) "hi" := asks_creationOf (by decide) rfl rfl
  let w := World.empty 1 .ofNat
  have ran : Task.run (serve {} ⟨1, 1⟩ greeting) w =
      (.answer { status := 200, body := .json (createdBody (.ofNat 0)) },
        { w with minted := 1, log := ⟨[⟨.ofNat 0, .ofNat 2, "hi"⟩], w.log.taken.insert (.ofNat 0)⟩ }) := by
    change Task.run (Plan.andThen (.ofTask (createPost {} greeting)) _) w = _
    rw [createPost_of_asks {} asks]
    rfl
  obtain ⟨first, does, answered, world⟩ := Task.Does.of_run World.Stumbles.performed (serve {} ⟨1, 1⟩ greeting) w
  rw [ran] at answered world
  have served : Served World.Stumbles {} ⟨1, 1⟩ w [⟨greeting, _⟩] first.world :=
    .next .nobody (.answer does answered)
  have distinct : first.world.Distinct := by
    rw [world]
    change ∀ m < 1, ∀ n < 1, w.supply m = w.supply n → m = n
    omega
  have traced := provenance served rfl distinct
  exact ⟨_, _, served, by rw [world], traced.1, (traced.2 _ (List.mem_singleton_self _)).1⟩

end Http
end FeedFanout
