import FeedFanout.Live.Notifier
import FeedFanout.Proofs.Channels

/-!
What the notifier does with topics, case by case: how a viewer comes to a stream (`Notifier.Subscribed`) and what
becomes of a message (`Notifier.Delivers`). A stream goes on to read its channel whatever is done to others
(`Notifier.Reads.mono`).
-/
namespace FeedFanout.Live

theorem forall_mem_set {α : Type} {good : α → Prop} {xs : List α} (all : ∀ x ∈ xs, good x) {x : α} (new : good x)
    (i : Nat) : ∀ y ∈ xs.set i x, good y := by
  intro y member
  rcases List.mem_or_eq_of_mem_set member with old | rfl
  · exact all y old
  · exact new

namespace Notifier

/-- A viewer of a user gets a stream: at once a finished one, one of the user's channel, or one of a new channel. -/
inductive Subscribed (n : Notifier) (user : UserId) : Stream → Notifier → Prop
  | shut (closed : n.isClosed = true) : Subscribed n user .finished n
  | joined {number : Nat} {c : Channel String} (running : n.isClosed = false) (topic : n.topics.get? user = some number)
      (there : n.channels[number]? = some c) :
      Subscribed n user (.attached number c.sent) { n with channels := n.channels.set number c.attach.1 }
  | opened {c : Channel String} (running : n.isClosed = false) (topicless : n.topics.get? user = none)
      (opens : Channel.open? n.capacity = some c) :
      Subscribed n user (.attached n.channels.length c.sent)
        { n with topics := n.topics.set user n.channels.length, channels := n.channels ++ [c.attach.1] }

/-- A message to a user is dropped, sent to the user's channel, or found to have no receiver. -/
inductive Delivers (n : Notifier) (user : UserId) (payload : String) : Notifier → Prop
  | dropped (topicless : n.topics.get? user = none) : Delivers n user payload n
  | sent {number : Nat} {c c' : Channel String} (topic : n.topics.get? user = some number)
      (there : n.channels[number]? = some c) (sends : c.send? payload = some c') :
      Delivers n user payload { n with channels := n.channels.set number c' }
  | pruned {number : Nat} (topic : n.topics.get? user = some number)
      (unheard : ∀ c, n.channels[number]? = some c → c.receivers = 0) :
      Delivers n user payload { n with topics := n.topics.erase user }

variable {n next : Notifier} {user : UserId}

theorem subscribed {stream : Stream} (given : n.subscribe? user = some (stream, next)) :
    n.Subscribed user stream next := by
  unfold subscribe? at given
  split at given
  · cases given
    exact .shut ‹_›
  have running : n.isClosed = false := by simpa using ‹¬n.isClosed = true›
  split at given
  · split at given
    · cases given
      exact .joined running ‹_› ‹_›
    · cases given
  · split at given
    · cases given
      exact .opened running ‹_› ‹_›
    · cases given

theorem delivers {post : Post} {published : Published} (given : n.publish user post = .ok (published, next)) :
    n.isClosed = false ∧ n.Delivers user post.wire next := by
  rw [publish_eq] at given
  split at given
  · cases given
  have running : n.isClosed = false := by simpa using ‹¬n.isClosed = true›
  refine ⟨running, ?_⟩
  split at given
  · cases given
    exact .dropped ‹_›
  next number topic =>
    split at given
    next c' sends =>
      cases given
      obtain ⟨c, there, sends⟩ := Option.bind_eq_some_iff.mp sends
      exact .sent topic there sends
    next unsent =>
      cases given
      refine .pruned topic ?_
      intro c there
      rw [there, Option.bind_some, Channel.send?] at unsent
      by_contra heard
      rw [if_neg heard] at unsent
      cases unsent

theorem isClosed_of_publish {post : Post} {error : NotifyError} (given : n.publish user post = .error error) :
    n.isClosed = true := by
  rw [publish_eq] at given
  split at given
  · assumption
  · split at given
    · cases given
    · split at given <;> cases given

/-- The number and the channel of a user's topic. -/
def topic? (n : Notifier) (user : UserId) : Option (Nat × Channel String) :=
  (n.topics.get? user).bind fun number => (n.channels[number]?).map (number, ·)

/-- A stream has still to get these messages. -/
def Reads (n : Notifier) (rest : List String) : Stream → Prop
  | .finished => rest = [] ∧ n.isClosed = true
  | .attached number position => ∃ c, n.channels[number]? = some c ∧ c.Follows position rest

/-- How many messages a stream is behind its channel. -/
def behind (n : Notifier) : Stream → Nat
  | .finished => 0
  | .attached number position =>
    match n.channels[number]? with
    | some c => c.sent - position
    | none => 0

theorem Reads.behind {rest : List String} {stream : Stream} (reads : n.Reads rest stream) :
    n.behind stream = rest.length := by
  cases stream with
  | finished => rw [reads.1]; rfl
  | attached number position =>
    obtain ⟨c, there, follows⟩ := reads
    have total := follows.behind
    simp only [Notifier.behind, there]
    omega

/-- A stream goes on to read a channel to which nothing is sent. -/
theorem Reads.mono {rest : List String} {stream : Stream} (reads : n.Reads rest stream)
    (closed : n.isClosed = true → next.isClosed = true)
    (kept : ∀ (number : Nat) (c : Channel String), n.channels[number]? = some c →
      ∃ c' : Channel String, next.channels[number]? = some c' ∧
        ∀ position, c.Follows position rest → c'.Follows position rest) : next.Reads rest stream := by
  cases stream with
  | finished => exact ⟨reads.1, closed reads.2⟩
  | attached number position =>
    obtain ⟨c, there, follows⟩ := reads
    obtain ⟨c', there', kept⟩ := kept number c there
    exact ⟨c', there', kept position follows⟩

@[simp] theorem isClosed_unsubscribe (n : Notifier) (stream : Stream) :
    (n.unsubscribe stream).isClosed = n.isClosed := by
  cases stream <;> rfl

@[simp] theorem topics_unsubscribe (n : Notifier) (stream : Stream) : (n.unsubscribe stream).topics = n.topics := by
  cases stream <;> rfl

theorem Reads.unsubscribe {rest : List String} {stream : Stream} (reads : n.Reads rest stream) (other : Stream) :
    (n.unsubscribe other).Reads rest stream := by
  refine reads.mono (fun closed => by rw [isClosed_unsubscribe, closed]) ?_
  intro number c there
  cases other with
  | finished => exact ⟨c, there, fun _ follows => follows⟩
  | attached left position =>
    refine ⟨if left = number then c.detach else c, ?_, ?_⟩
    · rw [Notifier.unsubscribe, List.getElem?_modify, there]
      rfl
    · intro position follows
      split
      · exact ⟨follows.behind, follows.kept⟩
      · exact follows

theorem Reads.close {rest : List String} {stream : Stream} (reads : n.Reads rest stream) :
    n.close.Reads rest stream := by
  refine reads.mono (fun _ => rfl) ?_
  intro number c there
  refine ⟨c.close, ?_, fun position follows => ⟨follows.behind, follows.kept⟩⟩
  rw [Notifier.close, List.getElem?_map, there]
  rfl

end Notifier

/-! ### Notifiers of some capacity -/

/-- A channel of a notifier of some capacity. -/
structure Channel.Proper (capacity : Nat) (isOpen : Bool) (c : Channel String) : Prop where
  full : c.Full
  retention : c.retention = powerFrom (max capacity 1)
  room : max capacity 1 ≤ largestCapacity
  isOpen : c.isOpen = isOpen

namespace Notifier
variable {n next : Notifier} {user : UserId} {capacity : Nat}

/-- A notifier of some capacity. No two users share a channel. -/
structure Sound (capacity : Nat) (n : Notifier) : Prop where
  configured : n.capacity = max capacity 1
  proper : ∀ c ∈ n.channels, c.Proper capacity !n.isClosed
  inside : ∀ user number, n.topics.get? user = some number → number < n.channels.length
  apart : ∀ user other number, n.topics.get? user = some number → n.topics.get? other = some number → user = other

namespace Sound

theorem make (capacity : Nat) : (Notifier.make capacity).Sound capacity := ⟨rfl, nofun, nofun, nofun⟩

/-- A channel is replaced by one of its kind. -/
theorem set (sound : n.Sound capacity) {c : Channel String} (proper : c.Proper capacity !n.isClosed) (number : Nat) :
    Sound capacity { n with channels := n.channels.set number c } := by
  refine ⟨sound.configured, forall_mem_set sound.proper proper number, ?_, sound.apart⟩
  · intro user number topic
    rw [List.length_set]
    exact sound.inside user number topic

theorem subscribe (sound : n.Sound capacity) {stream : Stream} (subscribed : n.Subscribed user stream next) :
    next.Sound capacity := by
  cases subscribed with
  | shut closed => exact sound
  | @joined number c running topic there =>
    obtain ⟨full, retention, room, isOpen⟩ := sound.proper c (List.mem_of_getElem? there)
    have proper : c.attach.1.Proper capacity !n.isClosed := ⟨full, retention, room, isOpen⟩
    exact sound.set proper number
  | @opened c running topicless opens =>
    have new : c.attach.1.Proper capacity !n.isClosed := by
      rw [sound.configured] at opens
      obtain ⟨rfl, room⟩ := Channel.open?_eq_some opens
      exact ⟨by simp [Channel.Full, Channel.attach], rfl, room, by rw [running]; rfl⟩
    refine ⟨sound.configured, ?_, ?_, ?_⟩
    · intro c' member
      rcases List.mem_append.mp member with old | last
      · exact sound.proper c' old
      · rw [List.mem_singleton.mp last]
        exact new
    · intro other number topic
      rw [Table.get?_set] at topic
      rw [List.length_append]
      split at topic
      · cases topic
        exact Nat.lt_succ_self _
      · exact Nat.lt_succ_of_lt (sound.inside other number topic)
    · -- The number of the new channel is in use by nobody else.
      intro one other number topic topic'
      rw [Table.get?_set] at topic topic'
      split at topic <;> split at topic'
      · rw [‹one = _›, ‹other = _›]
      · cases topic
        exact absurd (sound.inside other _ topic') (Nat.lt_irrefl _)
      · cases topic'
        exact absurd (sound.inside one _ topic) (Nat.lt_irrefl _)
      · exact sound.apart one other number topic topic'

theorem deliver (sound : n.Sound capacity) {payload : String} (delivers : n.Delivers user payload next) :
    next.Sound capacity := by
  cases delivers with
  | dropped topicless => exact sound
  | @sent number c c' topic there sends =>
    obtain ⟨full, retention, room, isOpen⟩ := sound.proper c (List.mem_of_getElem? there)
    have full' := full.send sends
    obtain rfl := Channel.send?_eq_some sends
    exact sound.set ⟨full', retention, room, isOpen⟩ number
  | @pruned number topic unheard =>
    have kept : ∀ other number, (n.topics.erase user).get? other = some number → n.topics.get? other = some number := by
      intro other number topic
      rw [Table.get?_erase] at topic
      split at topic
      · cases topic
      · exact topic
    refine ⟨sound.configured, sound.proper, ?_, ?_⟩
    · intro other number topic
      exact sound.inside other number (kept other number topic)
    · intro one other number topic topic'
      exact sound.apart one other number (kept one number topic) (kept other number topic')

theorem unsubscribe (sound : n.Sound capacity) (stream : Stream) : (n.unsubscribe stream).Sound capacity := by
  cases stream with
  | finished => exact sound
  | attached number position =>
    refine ⟨sound.configured, ?_, ?_, sound.apart⟩
    · intro c member
      obtain ⟨i, now⟩ := List.mem_iff_getElem?.mp member
      rw [Notifier.unsubscribe, List.getElem?_modify] at now
      obtain ⟨old, before, rfl⟩ := Option.map_eq_some_iff.mp now
      obtain ⟨full, retention, room, isOpen⟩ := sound.proper old (List.mem_of_getElem? before)
      split
      · exact ⟨full, retention, room, isOpen⟩
      · exact ⟨full, retention, room, isOpen⟩
    · intro user number topic
      rw [Notifier.unsubscribe, List.length_modify]
      exact sound.inside user number topic

theorem close (sound : n.Sound capacity) : n.close.Sound capacity := by
  refine ⟨sound.configured, ?_, nofun, nofun⟩
  intro c member
  obtain ⟨c, old, rfl⟩ := List.mem_map.mp member
  obtain ⟨full, retention, room, isOpen⟩ := sound.proper c old
  exact ⟨full, retention, room, rfl⟩

/-- There is a stream for every viewer, unless channels of the capacity cannot be opened. -/
theorem subscribe?_eq_none_iff (sound : n.Sound capacity) :
    n.subscribe? user = none ↔ n.isClosed = false ∧ largestCapacity < max capacity 1 := by
  unfold subscribe?
  cases closed : n.isClosed with
  | true => simp
  | false =>
    cases topic : n.topics.get? user with
    | some number =>
      have inside := sound.inside user number topic
      have room := (sound.proper _ (List.getElem_mem inside)).room
      simp [inside, Nat.not_lt.mpr room]
    | none =>
      have least : max capacity 1 ≠ 0 := by omega
      by_cases large : largestCapacity < max capacity 1
      · simp [Channel.open?, sound.configured, large]
      · simp [Channel.open?, sound.configured, large, least]

end Sound

/-- A message to one user leaves the topics of the others as they are. -/
theorem Delivers.topic? {payload : String} (delivers : n.Delivers user payload next) (sound : n.Sound capacity)
    {other : UserId} (apart : other ≠ user) : next.topic? other = n.topic? other := by
  cases delivers with
  | dropped topicless => rfl
  | @sent number c c' topic there sends =>
    cases topic' : n.topics.get? other with
    | none => simp [Notifier.topic?, topic']
    | some number' =>
      have different : number ≠ number' := by
        rintro rfl
        exact apart (sound.apart other user number topic' topic)
      simp [Notifier.topic?, topic', List.getElem?_set_ne different]
  | pruned topic unheard => simp [Notifier.topic?, Table.get?_erase, apart]

end Notifier
end FeedFanout.Live
