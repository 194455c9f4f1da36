import FeedFanout.Proofs.Errands
import FeedFanout.Proofs.Topics
import FeedFanout.Proofs.Reading

/-!
Holdings: what feeds and topics hold while warranted calls are made, each of which may fail. Feeds hold copies of stored
posts by friends, no more than there is room for (`World.Feeds.call`), and topics hold what was pushed into the user's
feed before (`World.Heard.call`). Both rest on replies that stay right, since posts are not forgotten and friends are not
lost (`Known.call`).
-/
namespace FeedFanout

/-! ### What is known of the store and of friends -/

/-- Posts are not forgotten and friends are not lost. -/
structure World.Grows (w w' : World) : Prop where
  posts : ∀ post ∈ w.log.posts, post ∈ w'.log.posts
  friends : ∀ user, ∀ friend ∈ w.graph.friendsOf user, friend ∈ w'.graph.friendsOf user

/-- Replies that were right when they came, and still are. -/
structure Known (w : World) (calls : List Made) : Prop where
  stored : ∀ post, ⟨.append post, some (.ok ())⟩ ∈ calls → post ∈ w.log.posts
  friends : ∀ user friends, ⟨.friendsOf user, some (.ok friends)⟩ ∈ calls →
    ∀ friend ∈ friends, friend ∈ w.graph.friendsOf user
  found : ∀ user authors window posts, ⟨.query user authors window, some (.ok posts)⟩ ∈ calls →
    ∀ post ∈ posts, post ∈ w.log.posts ∧ post.author ∈ authors

namespace World

@[refl] theorem Grows.refl (w : World) : w.Grows w := ⟨fun _ held => held, fun _ _ known => known⟩

theorem Falters.grows {w w' : World} {made : Made} (falters : Falters w made w') : w.Grows w' := by
  refine ⟨?_, ?_⟩
  · intro post held
    rw [falters.posts]
    exact List.mem_append_right _ held
  · intro user friend known
    rw [falters.graph]
    exact known

theorem grows_addUser (w : World) (user : UserId) : w.Grows { w with graph := w.graph.addUser user } := by
  refine ⟨fun _ held => held, ?_⟩
  intro other friend known
  rw [FriendGraph.friendsOf_addUser]
  exact known

theorem grows_notifier (w : World) (notifier : Live.Notifier) : w.Grows { w with notifier } :=
  ⟨fun _ held => held, fun _ _ known => known⟩

theorem grows_befriend (w : World) (a b : UserId) : w.Grows { w with graph := w.graph.addFriendship a b } := by
  refine ⟨fun _ held => held, ?_⟩
  intro other friend known
  rw [FriendGraph.mem_friendsOf_addFriendship]
  exact .inr known

end World

namespace Known
variable {w w' : World} {calls : List Made}

theorem grow (known : Known w calls) (grows : w.Grows w') : Known w' calls := by
  refine ⟨?_, ?_, ?_⟩
  · intro post stored
    exact grows.posts post (known.stored post stored)
  · intro user friends listed friend member
    exact grows.friends user friend (known.friends user friends listed friend member)
  · intro user authors window posts found post member
    obtain ⟨held, author⟩ := known.found user authors window posts found post member
    exact ⟨grows.posts post held, author⟩

theorem call (known : Known w calls) {made : Made} (falters : World.Falters w made w') :
    Known w' (calls ++ [made]) := by
  obtain ⟨stored, friends, found⟩ := known.grow falters.grows
  refine ⟨?_, ?_, ?_⟩
  · intro post member
    rcases List.mem_append.mp member with early | last
    · exact stored post early
    · rw [falters.posts, ← List.mem_singleton.mp last]
      exact List.mem_append_left _ (List.mem_singleton_self post)
  · intro user list member friend inside
    rcases List.mem_append.mp member with early | last
    · exact friends user list early friend inside
    · obtain rfl := List.mem_singleton.mp last
      rw [falters.graph, ← falters.friends]
      exact inside
  · intro user authors window posts member post inside
    rcases List.mem_append.mp member with early | last
    · exact found user authors window posts early post inside
    · obtain rfl := List.mem_singleton.mp last
      obtain ⟨call, same, rfl, -⟩ | ⟨failed, -⟩ := falters.effect
      · cases same
        have selected := (window.select_sublist _).subset inside
        obtain ⟨held, author⟩ := List.mem_filter.mp selected
        exact ⟨held, of_decide_eq_true author⟩
      · cases failed

/-- A post goes to its author's friends. -/
theorem friend (known : Known w calls) (built : w.graph.Built) {post : Post} {friends : List UserId}
    (listed : ⟨.friendsOf post.author, some (.ok friends)⟩ ∈ calls) {user : UserId}
    (target : user ∈ Service.targets post friends) : post.author ∈ w.graph.friendsOf user := by
  obtain ⟨member, -⟩ := Service.mem_targets.mp target
  exact built.symm.mpr (known.friends post.author friends listed user member)

end Known

/-! ### What feeds hold -/

/-- The entry is a copy of a stored post by a friend. -/
def World.Shows (w : World) (user : UserId) (entry : FeedEntry) : Prop :=
  ∃ post ∈ w.log.posts, entry = .snapshot post ∧ post.author ∈ w.graph.friendsOf user

/-- Feeds hold copies of stored posts by friends, as many as there is room for. -/
structure World.Feeds (cap : Nat) (w : World) : Prop where
  shows : ∀ user, ∀ entry ∈ w.cache.feed user, w.Shows user entry
  short : ∀ user, (w.cache.feed user).length ≤ cap

theorem World.Shows.grow {w w' : World} {user : UserId} {entry : FeedEntry} (shows : w.Shows user entry)
    (grows : w.Grows w') : w'.Shows user entry := by
  obtain ⟨post, held, same, friend⟩ := shows
  exact ⟨post, grows.posts post held, same, grows.friends user post.author friend⟩

namespace World.Feeds
variable {cap : Nat} {w w' : World} {calls : List Made} {s : Service} {wm : Warmer}

theorem grow (feeds : Feeds cap w) (grows : w.Grows w') (same : w'.cache = w.cache) : Feeds cap w' := by
  refine ⟨?_, ?_⟩
  · intro user entry member
    rw [same] at member
    exact (feeds.shows user entry member).grow grows
  · intro user
    rw [same]
    exact feeds.short user

/-- A feed that is written anew. -/
theorem put (feeds : Feeds cap w) {user : UserId} {entries : List FeedEntry}
    (shows : ∀ entry ∈ entries, w.Shows user entry) : Feeds cap { w with cache := w.cache.put user (entries.take cap) } := by
  have held : ∀ other, (w.cache.put user (entries.take cap)).feed other =
      if other = user then entries.take cap else w.cache.feed other := by
    intro other
    rw [FeedCache.feed, FeedCache.feed?_put]
    split <;> rfl
  refine ⟨?_, ?_⟩
  · intro other entry member
    rw [held] at member
    split at member
    · rw [‹other = user›]
      exact shows entry (List.mem_of_mem_take member)
    · exact feeds.shows other entry member
  · intro other
    rw [held]
    split
    · exact List.length_take_le ..
    · exact feeds.short other

theorem cache_of_harmless {call : Call} (harmless : call.Harmless) : (w.perform call).world.cache = w.cache := by
  cases call with
  | append post => rw [perform_append]; split <;> rfl
  | friendsOf | query | «exists» | read => rfl
  | _ => cases harmless

theorem cache_publish (user : UserId) (post : Post) : (w.perform (.publish user post)).world.cache = w.cache := by
  simp only [perform]
  split <;> rfl

/-- A warranted call leaves nothing else in feeds. -/
theorem call (feeds : Feeds s.capacity w) (alike : wm.capacity = s.capacity) (built : w.graph.Built)
    (known : Known w calls) {made : Made} (warranted : Warranted s wm calls made.call) (falters : Falters w made w') :
    Feeds s.capacity w' := by
  have grows := falters.grows
  obtain ⟨call, rfl, rfl, -⟩ | ⟨-, rfl⟩ := falters.effect
  · generalize same : Made.call ⟨call, some (w.perform call).reply⟩ = made at warranted
    obtain rfl : call = made := same
    cases warranted with
    | @push user post friends stored listed target =>
      have shows : ∀ entry ∈ FeedEntry.snapshot post :: w.cache.feed user, w.Shows user entry := by
        intro entry member
        rcases List.mem_cons.mp member with rfl | old
        · exact ⟨post, known.stored post stored, rfl, known.friend built listed target⟩
        · exact feeds.shows user entry old
      exact feeds.put shows
    | publish => exact feeds.grow grows (cache_publish ..)
    | @rebuild user friends window posts listed found =>
      rw [alike]
      refine feeds.put ?_
      intro entry member
      obtain ⟨post, inside, rfl⟩ := List.mem_map.mp member
      obtain ⟨held, author⟩ := known.found user friends window posts found post inside
      exact ⟨post, held, rfl, known.friends user friends listed post.author author⟩
    | harmless harmless => exact feeds.grow grows (cache_of_harmless harmless)
  · exact feeds

end World.Feeds

/-! ### What topics hold -/

/-- The entry of a post was pushed into a user's feed. -/
def Pushed (cap : Nat) (calls : List Made) (user : UserId) (post : Post) : Prop :=
  ⟨.push user (.snapshot post) cap, some (.ok ())⟩ ∈ calls

/-- What is on a user's topic was pushed into the user's feed. -/
def World.Heard (cap : Nat) (w : World) (calls : List Made) : Prop :=
  ∀ user number c, w.notifier.topics.get? user = some number → w.notifier.channels[number]? = some c →
    ∀ message ∈ c.kept, ∃ post ∈ w.log.posts, message = post.wire ∧ Pushed cap calls user post

namespace World.Heard
variable {cap channelCapacity : Nat} {w w' : World} {calls more : List Made} {next : Live.Notifier} {user : UserId}

theorem grow (heard : Heard cap w calls) (grows : w.Grows w') (same : w'.notifier = w.notifier)
    (larger : ∀ made ∈ calls, made ∈ more) : Heard cap w' more := by
  intro user number c topic there message member
  rw [same] at topic there
  obtain ⟨post, held, wire, pushed⟩ := heard user number c topic there message member
  exact ⟨post, grows.posts post held, wire, larger _ pushed⟩

/-- A new channel holds nothing. -/
theorem subscribe (heard : Heard cap w calls) (sound : w.notifier.Sound channelCapacity) {stream : Live.Stream}
    (subscribed : w.notifier.Subscribed user stream next) : Heard cap { w with notifier := next } calls := by
  cases subscribed with
  | shut => exact heard
  | @joined number c running topic there =>
    have inside := (List.getElem?_eq_some_iff.mp there).1
    intro other number' c' topic' there' message member
    by_cases same : number = number'
    · subst same
      rw [List.getElem?_set_self inside] at there'
      cases there'
      exact heard other number c topic' there message member
    · rw [List.getElem?_set_ne same] at there'
      exact heard other number' c' topic' there' message member
  | @opened c running topicless opens =>
    intro other number' c' topic' there' message member
    rw [Table.get?_set] at topic'
    split at topic'
    · cases topic'
      obtain ⟨rfl, -⟩ := Live.Channel.open?_eq_some opens
      rw [List.getElem?_append_right (Nat.le_refl _), Nat.sub_self] at there'
      cases there'
      cases member
    · rw [List.getElem?_append_left (sound.inside other number' topic')] at there'
      exact heard other number' c' topic' there' message member

theorem deliver (heard : Heard cap w calls) (sound : w.notifier.Sound channelCapacity) {post : Post}
    (held : post ∈ w.log.posts) (pushed : Pushed cap calls user post)
    (delivers : w.notifier.Delivers user post.wire next) : Heard cap { w with notifier := next } calls := by
  cases delivers with
  | dropped => exact heard
  | @sent number c c' topic there sends =>
    have inside := (List.getElem?_eq_some_iff.mp there).1
    intro other number' c'' topic' there' message member
    by_cases same : number = number'
    · subst same
      -- The channel belongs to the user to whom the message was sent.
      obtain rfl := sound.apart other user number topic' topic
      rw [List.getElem?_set_self inside] at there'
      cases there'
      rw [Live.Channel.send?_eq_some sends] at member
      rcases List.mem_cons.mp (List.mem_of_mem_take member) with rfl | old
      · exact ⟨post, held, rfl, pushed⟩
      · exact heard other number c topic' there message old
    · rw [List.getElem?_set_ne same] at there'
      exact heard other number' c'' topic' there' message member
  | pruned topic unheard =>
    intro other number' c' topic' there' message member
    rw [Table.get?_erase] at topic'
    split at topic'
    · cases topic'
    · exact heard other number' c' topic' there' message member

theorem unsubscribe (heard : Heard cap w calls) (stream : Live.Stream) :
    Heard cap { w with notifier := w.notifier.unsubscribe stream } calls := by
  cases stream with
  | finished => exact heard
  | attached number position =>
    intro user other c topic there message member
    rw [Live.Notifier.unsubscribe, List.getElem?_modify] at there
    obtain ⟨old, before, rfl⟩ := Option.map_eq_some_iff.mp there
    refine heard user other old topic before message ?_
    split at member
    · exact member
    · exact member

theorem notifier_of_harmless {call : Call} (harmless : call.Harmless) :
    (w.perform call).world.notifier = w.notifier := by
  cases call with
  | append post => rw [perform_append]; split <;> rfl
  | friendsOf | query | «exists» | read => rfl
  | _ => cases harmless

theorem publish (heard : Heard cap w calls) (sound : w.notifier.Sound channelCapacity) {post : Post}
    (held : post ∈ w.log.posts) (pushed : Pushed cap calls user post) :
    (w.perform (.publish user post)).world.notifier.Sound channelCapacity ∧
      Heard cap (w.perform (.publish user post)).world calls := by
  simp only [perform]
  split
  · exact ⟨sound, heard⟩
  -- A message that is sent, dropped or not heard by anybody.
  all_goals
    obtain ⟨-, delivers⟩ := Live.Notifier.delivers ‹_›
    exact ⟨sound.deliver delivers, heard.deliver sound held pushed delivers⟩

/-- A warranted call puts nothing else on a topic. -/
theorem call {s : Service} {wm : Warmer} (heard : Heard s.capacity w calls) (sound : w.notifier.Sound channelCapacity)
    (known : Known w calls) {made : Made} (warranted : Warranted s wm calls made.call) (falters : Falters w made w') :
    w'.notifier.Sound channelCapacity ∧ Heard s.capacity w' (calls ++ [made]) := by
  have grows := falters.grows
  have larger : ∀ other ∈ calls, other ∈ calls ++ [made] := fun _ => List.mem_append_left _
  obtain ⟨call, rfl, rfl, -⟩ | ⟨-, rfl⟩ := falters.effect
  · generalize same : Made.call ⟨call, some (w.perform call).reply⟩ = made at warranted
    obtain rfl : call = made := same
    cases warranted with
    | push => exact ⟨sound, heard.grow grows rfl larger⟩
    | rebuild => exact ⟨sound, heard.grow grows rfl larger⟩
    | harmless harmless =>
      have same := notifier_of_harmless (w := w) harmless
      exact ⟨same ▸ sound, heard.grow grows same larger⟩
    | @publish user post stored pushed =>
      obtain ⟨sound, heard⟩ := heard.publish sound (known.stored post stored) pushed
      exact ⟨sound, heard.grow (Grows.refl _) rfl larger⟩
  · exact ⟨sound, heard.grow grows rfl larger⟩

end World.Heard
end FeedFanout
