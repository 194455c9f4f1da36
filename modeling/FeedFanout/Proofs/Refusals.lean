import FeedFanout.Proofs.Characters
import FeedFanout.Proofs.Outcomes
import FeedFanout.Proofs.Requests

/-!
Refusals. A request that is answered with a status that blames the client has changed nothing and told nothing, whatever
became of its calls (`Http.refused_untouched`). The creation of a post that is refused has stored nothing
(`Service.Creates.refused`), and neither has one whose identifier is in use (`Service.Creates.taken`).
-/
namespace FeedFanout

namespace Course
variable {α β : Type} {w : World}

/-- Nothing has come of it, but that an identifier may have been given out. -/
structure Untouched (w : World) (course : Course α) : Prop where
  world : course.world = { w with minted := course.world.minted }
  events : course.events = []

theorem Idles.untouched {good : α → Prop} {course : Course α} (idles : course.Idles w good) : course.Untouched w :=
  ⟨by rw [idles.world], idles.events⟩

theorem Becomes.untouched {inner : Course α} {g : α → β} {course : Course β} (becomes : inner.Becomes g course)
    (untouched : inner.Untouched w) : course.Untouched w :=
  ⟨by rw [becomes.world]; exact untouched.world, becomes.events.trans untouched.events⟩

theorem Untouched.afterMint {made : Made} {course : Course α}
    (untouched : course.Untouched { w with minted := w.minted + 1 }) : (course.call made).Untouched w :=
  ⟨untouched.world, untouched.events⟩

end Course

namespace World.Suffers
variable {w w' : World}

theorem unchanged {call : Call} {reply : call.Reply} (suffers : Suffers w ⟨call, some reply⟩ w')
    (bad : Simulation.succeeded call reply = false) : w' = w := by
  cases suffers with
  | performed => exact perform_unsuccessful bad
  | failed => rfl

/-- A post whose identifier is in use is not stored. -/
theorem taken {post : Post} {reply : Option (Except StoreError Unit)} (suffers : Suffers w ⟨.append post, reply⟩ w')
    (used : post.id ∈ w.log.taken) : w' = w ∧ reply ≠ some (.ok ()) := by
  have performed : w.perform (.append post) = ⟨.error (.duplicate "posts_pkey"), w, []⟩ := by
    rw [perform_append, if_pos used]
  refine ⟨?_, ?_⟩
  · obtain same | same := suffers.world
    · exact same
    · exact same.trans (congrArg Answer.world performed)
  · rintro rfl
    have stored := (suffers.of_succeeded rfl).1
    rw [performed] at stored
    cases stored

end World.Suffers

namespace Service
variable {s : Service} {post : Post} {manner : Manner} {w : World} {course : Course (Except FeedError PostId)}

/-- Once the post is stored, its creation is not refused. -/
theorem Answers.fair {calls : List Made} {answer : Except FeedError PostId}
    (answers : s.Answers post (⟨.append post, some (.ok ())⟩ :: calls) answer) : Fair answer := by
  cases answers with
  | unstored bad => cases bad
  | @unlisted reply error bad =>
    obtain _ | e | friends := reply <;> cases bad <;> exact Fair.error id
  | @reached friends calls reach reports =>
    unfold Reach.answer
    split
    · exact Fair.ok _
    · exact Fair.error id

/-- What becomes of the creation of a post by its author. -/
inductive Creates (s : Service) (post : Post) (manner : Manner) (w : World) : Course (Except FeedError PostId) → Prop
  | left : Creates s post manner w ⟨[], [], none, w⟩
  | unstored {reply : Option (Except StoreError Unit)} {error : FeedError} {w' : World}
      {course : Course (Except FeedError PostId)} (met : manner w ⟨.append post, reply⟩ w')
      (bad : s.appendError post reply = some error) (idles : course.Idles w' (· = .error error)) :
      Creates s post manner w (course.call ⟨.append post, reply⟩)
  | stored {w' : World} {course : Course (Except FeedError PostId)} (met : manner w ⟨.append post, some (.ok ())⟩ w')
      (fair : ∀ answer, course.answer = some answer → Fair answer) : Creates s post manner w course

theorem does_createPost (does : (s.createPost post.author post).Does manner w course) :
    s.Creates post manner w course := by
  rw [createPost_eq] at does
  cases does with
  | left => exact .left
  | @askWithin _ _ _ reply _ w' course met later =>
    obtain _ | e | done := reply
    · exact .unstored met rfl later.of_done
    · exact .unstored met rfl later.of_done
    · refine .stored met ?_
      intro answer answered
      change Task.Does manner (.tell _ (s.spread post.author post)) w' course at later
      cases later with
      | left => cases answered
      | tell later =>
        obtain ⟨rest, goes, ended⟩ := later.goes
        obtain rfl := ended answer answered
        exact (goes_spread_done goes).fair

namespace Creates

/-- A creation that was refused has left everything as it was. -/
theorem refused (creates : s.Creates post World.Suffers w course) {error : FeedError}
    (answered : course.answer = some (.error error)) (refusal : error.IsRefusal) : course.Untouched w := by
  cases creates with
  | left => cases answered
  | @unstored reply _ w' course met bad idles =>
    cases idles.answer _ answered
    obtain _ | e | done := reply <;> cases bad
    · cases refusal
    · obtain rfl := met.unchanged rfl
      exact ⟨idles.untouched.world, idles.events⟩
  | stored met fair => exact absurd refusal (fair _ answered error rfl)

theorem taken (creates : s.Creates post World.Suffers w course) (used : post.id ∈ w.log.taken) :
    course.Untouched w := by
  cases creates with
  | left => exact ⟨rfl, rfl⟩
  | unstored met bad idles =>
    obtain ⟨rfl, -⟩ := met.taken used
    exact ⟨idles.untouched.world, idles.events⟩
  | stored met => exact absurd rfl (met.taken used).2

end Creates
end Service

namespace Http

/-- Why a request for the creation of a post comes to nothing. -/
inductive Request.Unfit (r : Request) (w : World) : Prop
  | nobody
    (unknown : ∀ (raw : String) user,
      r.header? "x-user-id" = some raw.toUTF8 → isReadable raw = true → UserId.parse raw ≠ .ok user)
  | illegible (unread : ∀ text, requestedText r ≠ .ok text)
  | blank {text : String} (read : requestedText r = .ok text) (blank : ∀ c ∈ text.toList, Text.isBlank c = true)
  | taken (used : w.supply w.minted ∈ w.log.taken)

theorem viewer_ok {r : Request} {user : UserId} (known : viewer r = .ok user) :
    ∃ raw : String, r.header? "x-user-id" = some raw.toUTF8 ∧ Request.isReadable raw = true ∧
      UserId.parse raw = .ok user := by
  unfold viewer at known
  split at known
  · cases known
  rename_i value given
  split at known
  · cases known
  rename_i raw read
  obtain ⟨rfl, readable⟩ := Request.readable?_eq_some_iff.mp read
  split at known
  · cases known
    exact ⟨raw, given, readable, ‹_›⟩
  · cases known

theorem Request.Asks.taken {r : Request} {author : UserId} {text : String} {w : World} (asks : r.Asks author text)
    (unfit : r.Unfit w) : w.supply w.minted ∈ w.log.taken := by
  cases unfit with
  | nobody unknown =>
    obtain ⟨raw, given, readable, parsed⟩ := viewer_ok asks.author
    exact absurd parsed (unknown raw author given readable)
  | illegible unread => exact absurd asks.requested (unread text)
  | blank read blank =>
    cases asks.requested.symm.trans read
    have empty : Text.onlyBlank text = true := List.all_eq_true.mpr blank
    cases empty.symm.trans asks.filled
  | taken used => exact used

variable {s : Service} {wm : Warmer} {r : Request} {w : World}

theorem refusal_of_blamed {answer : Except FeedError PostId} (blamed : ¬(createdReply answer).Blameless) :
    ∃ error, answer = .error error ∧ error.IsRefusal := by
  cases answer with
  | error e => exact ⟨e, rfl, Classical.not_not.mp fun fair => blamed (blameless_ofFeedError fair)⟩
  | ok post => simp [createdReply, Reply.Blameless] at blamed

/-- The creation behind a request, after its identifier was given out. -/
theorem does_creation {author : UserId} {text : String} {course : Course (Except FeedError PostId)}
    (does : (creation s author text).Does World.Suffers w course) :
    course = ⟨[], [], none, w⟩ ∨ ∃ made inner, course = inner.call made ∧
      s.Creates ⟨w.supply w.minted, author, text⟩ World.Suffers { w with minted := w.minted + 1 } inner := by
  cases does with
  | left => exact .inl rfl
  | ask met later =>
    obtain ⟨rfl, rfl⟩ := met.of_succeeded rfl
    exact .inr ⟨_, _, rfl, Service.does_createPost later⟩

/-- Whatever the request and whatever becomes of its calls, a reply that blames the client means that nothing was
changed and nothing told. The creation of a post changes nothing without an author, without a text that can be read and
is not blank, or if the identifier is in use. -/
theorem refused_untouched {course : Course Reply} (does : Plan.Does World.Suffers wm (serve s wm r) w course) :
    (∀ reply, course.answer = some reply → 400 ≤ reply.status → reply.status < 500 → course.Untouched w) ∧
      (r.Creates → r.Unfit w → course.Untouched w) := by
  obtain ⟨inner, handled, becomes⟩ := does_serve does
  suffices same : (∀ reply, inner.answer = some reply → ¬reply.Blameless → inner.Untouched w) ∧
      (r.Creates → r.Unfit w → inner.Untouched w) by
    refine ⟨?_, fun creates unfit => becomes.untouched (same.2 creates unfit)⟩
    intro reply answered low high
    obtain ⟨held, kept, rfl⟩ := becomes.answer reply answered
    exact becomes.untouched (same.1 held kept (not_not_intro ⟨low, high⟩))
  cases handled with
  | early idles => exact ⟨fun _ _ _ => idles.untouched, fun _ _ => idles.untouched⟩
  | other different unstored blameless =>
    exact ⟨fun reply answered blamed => absurd (blameless reply answered) blamed,
      fun creates => absurd creates different⟩
  | created asks does wraps =>
    obtain rfl | ⟨made, inner, rfl, creates⟩ := does_creation does
    · exact ⟨fun _ _ _ => wraps.untouched ⟨rfl, rfl⟩, fun _ _ => wraps.untouched ⟨rfl, rfl⟩⟩
    · refine ⟨?_, fun _ unfit => wraps.untouched (creates.taken (asks.taken unfit)).afterMint⟩
      intro reply answered blamed
      obtain ⟨answer, kept, rfl⟩ := wraps.answer reply answered
      obtain ⟨error, rfl, refusal⟩ := refusal_of_blamed blamed
      exact wraps.untouched (creates.refused kept refusal).afterMint

/-- Two friends, one with a post and the other with it in their feed and watching. No identifier is new. -/
def crowdedWorld : World :=
  let post : Post := ⟨.ofNat 1, .ofNat 2, "hi"⟩
  { World.empty 4 (fun _ => .ofNat 1) with
    log := ⟨[post], IdSet.empty.insert (.ofNat 1)⟩
    graph := FriendGraph.empty.addFriendship (.ofNat 2) (.ofNat 3)
    cache := FeedCache.empty.push (.ofNat 3) (.snapshot post) 10
    notifier := ⟨4, false, Table.empty.set (.ofNat 3) 0, [⟨4, 0, [], 1, true⟩]⟩ }

/-- A request for the creation of a post by user 2, with such a body. -/
def creationOf (body : ByteArray) : Request where
  method := "POST"
  target := ⟨"/post/create", none⟩
  headers := [("x-user-id", "00000000-0000-0000-0000-000000000002".toUTF8), ("content-type", "application/json".toUTF8)]
  body

theorem viewer_creationOf (body : ByteArray) : viewer (creationOf body) = .ok (.ofNat 2) := by
  unfold viewer
  have given : (creationOf body).header? Request.viewerHeader =
      some "00000000-0000-0000-0000-000000000002".toUTF8 := rfl
  rw [given]
  dsimp only
  rw [Request.readable?_toUTF8 (by decide)]
  rfl

theorem requestedText_creationOf {body : ByteArray} (small : body.size ≤ largestBody) :
    requestedText (creationOf body) =
      match requestFormat.read (Text.Utf8.read body) with
      | .error failure => .error (refuseBody failure)
      | .ok draft => .ok (draft.getD "") := by
  have given : (creationOf body).header? "content-type" = some "application/json".toUTF8 := rfl
  unfold requestedText
  rw [given, Option.bind_some, Request.readable?_toUTF8 (by decide)]
  dsimp only
  rw [if_neg (by decide)]
  exact if_neg (Nat.not_lt.mpr small)

/-- A text in the body that is asked for. -/
theorem asks_creationOf {body text : String} (small : body.toUTF8.size ≤ largestBody)
    (read : requestFormat.read (body.toList.map some) = .ok (some text)) (filled : Text.onlyBlank text = false) :
    (creationOf body.toUTF8).Asks (.ofNat 2) text := by
  refine ⟨⟨rfl, rfl⟩, viewer_creationOf _, ?_, filled⟩
  rw [requestedText_creationOf small, Text.Utf8.read_toUTF8, read]
  rfl

/-- Someone asks for a post with an identifier that is in use, and for one whose text has a stray byte. -/
theorem refused_untouched_crowded :
    let wm : Warmer := ⟨10, 1⟩
    let hi := creationOf "\x7b\"text\":\"hi\"\x7d".toUTF8
    let stray := creationOf ("\x7b\"text\":\"".toUTF8 ++ ⟨#[0xFF, 0x22, 0x7D]⟩)
    (∃ course, Plan.Does World.Suffers wm (serve {} wm hi) crowdedWorld course ∧
      (∃ reply, course.answer = some reply ∧ reply.status = 409) ∧ course.Untouched crowdedWorld) ∧
      ∃ course, Plan.Does World.Suffers wm (serve {} wm stray) crowdedWorld course ∧
        (∃ reply, course.answer = some reply ∧ reply.status = 400) ∧ course.Untouched crowdedWorld := by
  intro wm hi stray
  have run (r : Request) := Task.Does.of_run World.Suffers.performed (serve {} wm r) crowdedWorld
  refine ⟨?_, ?_⟩
  · obtain ⟨first, does, answered, -⟩ := run hi
    have asks : hi.Asks (.ofNat 2) "hi" := asks_creationOf (by decide) rfl rfl
    have refused : (Task.run (serve {} wm hi) crowdedWorld).1 = .answer (.ofFeedError (.duplicatePost (.ofNat 1))) := by
      change (Task.run (Plan.andThen (.ofTask (createPost {} hi)) _) crowdedWorld).1 = _
      rw [createPost_of_asks {} asks]
      rfl
    have does : Plan.Does World.Suffers wm (serve {} wm hi) crowdedWorld _ :=
      .answer does (answered.trans (congrArg some refused))
    exact ⟨_, does, ⟨_, rfl, rfl⟩, (refused_untouched does).1 _ rfl (by decide) (by decide)⟩
  · obtain ⟨first, does, answered, -⟩ := run stray
    have read : Text.Utf8.read ("\x7b\"text\":\"".toUTF8 ++ ⟨#[0xFF, 0x22, 0x7D]⟩) =
        "\x7b\"text\":\"".toList.map some ++ [none, some '"', some '\x7d'] := by
      rw [String.toUTF8, ← String.utf8Encode_toList, Text.Utf8.read_append]
      congr 1
      decide +kernel
    let failure : Json.Failure Empty := ⟨.field "text", .flaw .codePoint, some ⟨1, 11⟩⟩
    have unread : requestedText stray = .error (refuseBody failure) := by
      rw [requestedText_creationOf (by decide), read]
      rfl
    have refused : (Task.run (serve {} wm stray) crowdedWorld).1 = .answer (refuseBody failure) := by
      change (Task.run (Plan.andThen (.ofTask (createPost {} stray)) _) crowdedWorld).1 = _
      rw [createPost, withViewer, viewer_creationOf]
      dsimp only
      rw [unread]
      rfl
    have does : Plan.Does World.Suffers wm (serve {} wm stray) crowdedWorld _ :=
      .answer does (answered.trans (congrArg some refused))
    exact ⟨_, does, ⟨_, rfl, rfl⟩, (refused_untouched does).2 ⟨rfl, rfl⟩ (.illegible fun text same => by
      cases unread.symm.trans same)⟩

end Http
end FeedFanout
