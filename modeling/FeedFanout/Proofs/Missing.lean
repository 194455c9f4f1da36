import FeedFanout.Proofs.Report
import Mathlib.Data.List.Nodup

/-!
Posts missing from feeds. While posts are created one after the other, calls may fail. A feed then holds the posts of the
user's friends in the store but those that their creators were told of (`Tried.holds_unreported`): the list of friends
could not be had, or the answer names the user.
-/
namespace FeedFanout

/-- A creation that was tried, with its calls and its answer. -/
structure Attempt where
  post : Post
  calls : List Made
  answer : Except FeedError PostId

namespace Attempt

/-- The attempt stored its post. -/
def stores (a : Attempt) : Bool := a.calls.any (·.stored? = some a.post)

/-- The attempt got the list of friends. -/
def listed (a : Attempt) : Bool :=
  a.calls.any fun made =>
    match made with
    | ⟨.friendsOf _, some (.ok _)⟩ => true
    | _ => false

/-- The answer says of a user that the post did not come into their feed. -/
def lacks (a : Attempt) (user : UserId) : Bool :=
  match a.answer with
  | .error (.partialFanout report) => report.Lacks user
  | _ => false

/-- The attempt stored its post, and nothing was said of its missing from the user's feed. -/
def unreported (a : Attempt) (user : UserId) : Bool := a.stores && a.listed && !a.lacks user

theorem stores_of_unreported {a : Attempt} {user : UserId} (fine : a.unreported user) : a.stores := by
  simp only [unreported, Bool.and_eq_true] at fine
  exact fine.1.1

/-- The user's feed is to hold the post. -/
def Due (friends : List UserId) (user : UserId) (a : Attempt) : Prop := a.post.author ∈ friends ∧ a.unreported user

instance (friends : List UserId) (user : UserId) (a : Attempt) : Decidable (a.Due friends user) :=
  inferInstanceAs (Decidable (_ ∧ _))

end Attempt

/-- Creations tried one after the other, the last first, and the world that they have led to. -/
inductive Tried (s : Service) (start : World) : List Attempt → World → Prop
  | start : Tried s start [] start
  | again {attempts : List Attempt} {author : UserId} {post : Post} {calls : List Made}
      {answer : Except FeedError PostId} {w w' : World} (tried : Tried s start attempts w)
      (goes : (s.createPost author post).Goes calls (.done answer)) (plays : World.Plays World.Falters w calls w') :
      Tried s start (⟨post, calls, answer⟩ :: attempts) w'

namespace Service
variable {s : Service} {author : UserId} {post : Post} {friends : List UserId} {calls : List Made}
  {answer : Except FeedError PostId} {w w' : World}

theorem Pushes.appended (pushes : s.Pushes post friends calls) : appendedIn calls = [] := by
  rw [appendedIn, List.reverse_eq_nil_iff, List.filterMap_eq_nil_iff]
  rintro ⟨call, reply⟩ member
  obtain ⟨user, rfl⟩ | ⟨user, rfl⟩ := pushes.each _ member
  · rfl
  · rfl

/-- A creation stores its own post if any. -/
theorem Steps.stored (steps : s.Steps post calls) :
    appendedIn calls = if calls.any (·.stored? = some post) then [post] else [] := by
  cases steps with
  | begun => rfl
  | appended reply =>
    obtain _ | e | done := reply
    · rfl
    · rfl
    · simp [appendedIn, Made.stored?]
  | asked reply => simp [appendedIn, Made.stored?]
  | reached friends pushes => simp [appendedIn_cons, pushes.appended, Made.stored?]

/-- A feed accepts the post of a friend unless the answer says otherwise. -/
theorem accepted_of_goes (built : w.graph.Built) (goes : (s.createPost author post).Goes calls (.done answer))
    (plays : World.Plays World.Falters w calls w') (user : UserId) :
    acceptedIn user calls =
      if Attempt.Due (w.graph.friendsOf user) user ⟨post, calls, answer⟩ then [.snapshot post] else [] := by
  obtain ⟨rfl, answers⟩ | ⟨other, rfl, rfl⟩ := goes_answers goes
  · cases answers with
    | @unstored reply error bad =>
      obtain _ | e | done := reply
      · simp [Attempt.Due, Attempt.unreported, Attempt.stores, Made.stored?, acceptedIn, Made.accepted?, Made.pushed?]
      · simp [Attempt.Due, Attempt.unreported, Attempt.stores, Made.stored?, acceptedIn, Made.accepted?, Made.pushed?]
      · cases bad
    | @unlisted reply error bad =>
      obtain _ | e | friends := reply
      · simp [Attempt.Due, Attempt.unreported, Attempt.listed, acceptedIn, Made.accepted?, Made.pushed?]
      · simp [Attempt.Due, Attempt.unreported, Attempt.listed, acceptedIn, Made.accepted?, Made.pushed?]
      · cases bad
    | @reached friends calls reach reports =>
      obtain rfl : friends = w.graph.friendsOf post.author := by
        obtain _ | ⟨first, _ | ⟨second, later⟩⟩ := plays
        rw [second.friends, first.graph]
      have distinct : (targets post (w.graph.friendsOf post.author)).Nodup := (w.graph.nodup_friendsOf _).filter _
      rw [acceptedIn_cons, acceptedIn_cons, reports.accepted distinct]
      simp only [target_iff built]
      by_cases fine : reach.failures = []
      · obtain ⟨-, -, skipped⟩ := reports.whole fine
        simp [Attempt.Due, Attempt.unreported, Attempt.stores, Attempt.listed, Attempt.lacks, Made.stored?,
          Made.accepted?, Made.pushed?, Reach.answer, Reach.report, Fanout.Partial.Lacks, fine, skipped]
      · simp [Attempt.Due, Attempt.unreported, Attempt.stores, Attempt.listed, Attempt.lacks, Made.stored?,
          Made.accepted?, Made.pushed?, Reach.answer, fine]
  · simp [Attempt.Due, Attempt.unreported, Attempt.stores]

end Service

/-- The feed that posts come to, given newest first. -/
def accumulated (cap : Nat) (posts : List Post) : Option (List FeedEntry) :=
  if posts = [] then none else some ((posts.take cap).map .snapshot)

theorem accumulated_cons (cap : Nat) (post : Post) (posts : List Post) :
    accumulated cap (post :: posts) = some ((.snapshot post :: (accumulated cap posts).getD []).take cap) := by
  have held : (accumulated cap posts).getD [] = (posts.map .snapshot).take cap := by
    by_cases none : posts = []
    · simp [accumulated, none]
    · simp [accumulated, none, List.map_take]
  rw [held, ← List.singleton_append (x := FeedEntry.snapshot post), take_append_take]
  simp [accumulated, List.map_take]

namespace Tried
variable {s : Service} {start w : World} {attempts : List Attempt}

theorem graph (tried : Tried s start attempts w) : w.graph = start.graph := by
  induction tried with
  | start => rfl
  | again tried goes plays ih => rw [plays.graph, ih]

theorem exact (tried : Tried s start attempts w) (unwritten : start.log = .empty) : w.log.Exact := by
  induction tried with
  | start => rw [unwritten]; exact .empty
  | again tried goes plays ih => exact plays.exact ih

/-- The store holds the posts of the attempts that stored theirs. -/
theorem posts (tried : Tried s start attempts w) (unwritten : start.log = .empty) :
    w.log.posts = (attempts.filter (·.stores)).map (·.post) := by
  induction tried with
  | start => rw [unwritten]; rfl
  | @again attempts author post calls answer w w' tried goes plays ih =>
    rw [plays.posts, ih, (Service.goes_createPost goes).1.stored, List.filter_cons]
    cases stored : calls.any (·.stored? = some post) with
    | true => simp [Attempt.stores, stored]
    | false => simp [Attempt.stores, stored]

/-- A feed comes of the attempts of friends that did not report it. -/
theorem feed? (tried : Tried s start attempts w) (unread : start.cache = .empty) (built : start.graph.Built)
    (user : UserId) :
    w.cache.feed? user =
      accumulated s.capacity ((attempts.filter (·.Due (start.graph.friendsOf user) user)).map (·.post)) := by
  induction tried with
  | start => rw [unread]; rfl
  | @again attempts author post calls answer w w' tried goes plays ih =>
    have steps := (Service.goes_createPost goes).1
    have accepted := Service.accepted_of_goes (tried.graph ▸ built) goes plays user
    rw [tried.graph] at accepted
    rw [plays.feed? steps.plain (steps.never user), accepted, List.filter_cons]
    by_cases due : Attempt.Due (start.graph.friendsOf user) user ⟨post, calls, answer⟩
    · simp [due, accumulated_cons, FeedCache.feed, ih]
    · simp [due, ih]

/-- Attempts that stored the same post are one. -/
theorem alone (tried : Tried s start attempts w) (unwritten : start.log = .empty) {a b : Attempt}
    (left : a ∈ attempts) (right : b ∈ attempts) (stores : a.stores) (stores' : b.stores) (same : a.post = b.post) :
    a = b := by
  have distinct := (tried.exact unwritten).distinct
  rw [tried.posts unwritten, List.map_map] at distinct
  exact List.inj_on_of_nodup_map distinct (List.mem_filter.mpr ⟨left, stores⟩) (List.mem_filter.mpr ⟨right, stores'⟩)
    (congrArg (·.id) same)

/-- After creations with whatever faults, a user's feed holds the latest of their friends' posts in the store, all but
those that were not announced to the user's friends and those whose creators were told that the user lacks them. -/
theorem holds_unreported (tried : Tried s start attempts w) (unwritten : start.log = .empty)
    (unread : start.cache = .empty) (built : start.graph.Built) (user : UserId) :
    w.cache.feed? user = accumulated s.capacity (w.log.posts.filter fun post =>
      post.author ∈ start.graph.friendsOf user ∧ ∃ a ∈ attempts, a.post = post ∧ a.unreported user) := by
  rw [tried.feed? unread built, tried.posts unwritten, List.filter_map, List.filter_filter]
  congr 2
  refine List.filter_congr ?_
  intro a member
  rw [Function.comp_apply, Bool.eq_iff_iff, Bool.and_eq_true, decide_eq_true_iff, decide_eq_true_iff]
  constructor
  · rintro ⟨friend, fine⟩
    exact ⟨⟨friend, a, member, rfl, fine⟩, Attempt.stores_of_unreported fine⟩
  · rintro ⟨⟨friend, b, other, same, fine⟩, stores⟩
    obtain rfl := tried.alone unwritten other member (Attempt.stores_of_unreported fine) stores same
    exact ⟨friend, fine⟩

/-- User 8 is a friend of users 7 and 9. -/
def circle : World :=
  { World.empty 1 .ofNat with
    graph := (FriendGraph.empty.addFriendship (.ofNat 7) (.ofNat 8)).addFriendship (.ofNat 8) (.ofNat 9) }

/-- A post by user 8. -/
def call (n : Nat) : Post := ⟨.ofNat n, .ofNat 8, "a"⟩

/-- All went well. -/
def heard : Attempt where
  post := call 1
  calls := ⟨.append (call 1), some (.ok ())⟩ :: ⟨.friendsOf (.ofNat 8), some (.ok [.ofNat 7, .ofNat 9])⟩ ::
    [.ofNat 7, .ofNat 9].flatMap (Service.reachedBy { capacity := 4 } (call 1))
  answer := .ok (.ofNat 1)

/-- The push to user 7 was not answered, so that user 9 was left out. -/
def unheard : Attempt where
  post := call 2
  calls := [⟨.append (call 2), some (.ok ())⟩, ⟨.friendsOf (.ofNat 8), some (.ok [.ofNat 7, .ofNat 9])⟩,
    ⟨.push (.ofNat 7) (.snapshot (call 2)) 4, none⟩]
  answer := .error (.partialFanout
    ⟨.ofNat 2, [], [⟨.ofNat 7, .cacheWrite, .timeout (.ofSeconds 5)⟩], [.ofNat 9]⟩)

/-- The world after the calls of attempts, as far as they were performed. -/
def after (w : World) (calls : List Call) : World := calls.foldl (fun w call => (w.perform call).world) w

/-- The world after both. -/
def aftermath : World := after circle (heard.calls.map (·.call) ++ [.append (call 2), .friendsOf (.ofNat 8)])

theorem goes_heard :
    (Service.createPost { capacity := 4 } (.ofNat 8) (call 1)).Goes heard.calls (.done heard.answer) := by
  refine .askWithin (.tell (.askWithin ?_))
  change Task.Goes (Task.bind (Service.fanout _ (call 1) [.ofNat 7, .ofNat 9]) _) _ _
  rw [Service.fanout_eq]
  refine .askWithin (.askWithin (.tell ?_))
  exact .askWithin (.askWithin (.tell (.tell (.tell (.stay _)))))

theorem goes_unheard :
    (Service.createPost { capacity := 4 } (.ofNat 8) (call 2)).Goes unheard.calls (.done unheard.answer) := by
  refine .askWithin (.tell (.askWithin ?_))
  change Task.Goes (Task.bind (Service.fanout _ (call 2) [.ofNat 7, .ofNat 9]) _) _ _
  rw [Service.fanout_eq]
  exact .askWithin (.tell (.tell (.tell (.tell (.stay _)))))

theorem tried_unheard : Tried { capacity := 4 } circle [unheard, heard] aftermath := by
  have first : World.Plays World.Falters circle heard.calls (after circle (heard.calls.map (·.call))) := by
    refine .cons (.performed ..) (.cons (.performed ..) ?_)
    refine .cons (.performed ..) (.cons (.performed ..) ?_)
    exact .cons (.performed ..) (.cons (.performed ..) (.nil _))
  have second : World.Plays World.Falters (after circle (heard.calls.map (·.call))) unheard.calls aftermath :=
    .cons (.performed ..) (.cons (.performed ..) (.cons (.late ..) (.nil _)))
  exact .again (.again .start goes_heard first) goes_unheard second

/-- User 9 keeps the first post alone, although both are in the store. -/
theorem holds_heard : aftermath.cache.feed? (.ofNat 9) = some [.snapshot (call 1)] := by
  have built : circle.graph.Built :=
    .addFriendship (.ofNat 8) (.ofNat 9) (.addFriendship (.ofNat 7) (.ofNat 8) .empty)
  have held := tried_unheard.holds_unreported rfl rfl built (.ofNat 9)
  exact held.trans rfl

end Tried
end FeedFanout
