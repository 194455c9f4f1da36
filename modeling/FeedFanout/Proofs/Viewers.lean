import FeedFanout.Proofs.Topics
import Mathlib.Data.List.Basic

/-!
Viewers of a notifier. A house is a notifier with all its viewers, who come, read and leave in any order while posts
are published (`House.step`). Every step keeps it in order (`House.Orderly.step`): each stream goes on to read what its
viewer has still to get.
-/
namespace FeedFanout.Live

/-- What a viewer was to get, and what it got. -/
structure Account where
  user : UserId
  /-- The viewer has not left. -/
  present : Bool
  /-- The messages published to the user since the viewer came and until it left. -/
  due : List String
  receipts : List (Receipt String)

/-- What the viewer has still to get. -/
def Account.rest (a : Account) : List String := a.due.drop (takenIn a.receipts)

theorem Account.rest_receive (a : Account) (receipt : Receipt String) :
    Account.rest { a with receipts := a.receipts ++ [receipt] } = a.rest.drop receipt.taken := by
  simp [rest, takenIn_append, List.drop_drop]

/-- A viewer, with the stream that it reads. -/
structure Viewer where
  account : Account
  stream : Stream

/-- A notifier and all viewers that ever came. -/
structure House where
  notifier : Notifier
  viewers : List Viewer

/-- What is done with a notifier. A viewer has a number, in the order in which they came. -/
inductive Act
  | subscribe (user : UserId)
  | publish (user : UserId) (post : Post)
  | receive (viewer : Nat)
  | leave (viewer : Nat)
  | close

namespace Viewer

/-- A message is published to a user. -/
def told (user : UserId) (payload : String) (v : Viewer) : Viewer :=
  if v.account.present ∧ v.account.user = user then
    { v with account := { v.account with due := v.account.due ++ [payload] } }
  else v

/-- The viewer takes what its stream gives. -/
def read (n : Notifier) (v : Viewer) : Viewer :=
  ⟨{ v.account with receipts := v.account.receipts ++ [(n.receive v.stream).1] }, (n.receive v.stream).2⟩

def gone (v : Viewer) : Viewer := { v with account := { v.account with present := false } }

end Viewer

namespace House

def empty (capacity : Nat) : House := ⟨.make capacity, []⟩

def step (h : House) : Act → House
  | .subscribe user =>
    match h.notifier.subscribe? user with
    | some (stream, notifier) => ⟨notifier, h.viewers ++ [⟨⟨user, true, [], []⟩, stream⟩]⟩
    | none => h
  | .publish user post =>
    match h.notifier.publish user post with
    | .ok (_, notifier) => ⟨notifier, h.viewers.map (·.told user post.wire)⟩
    | .error _ => h
  | .receive i =>
    match h.viewers[i]? with
    | some v => if v.account.present then { h with viewers := h.viewers.set i (v.read h.notifier) } else h
    | none => h
  | .leave i =>
    match h.viewers[i]? with
    | some v => if v.account.present then ⟨h.notifier.unsubscribe v.stream, h.viewers.set i v.gone⟩ else h
    | none => h
  | .close => { h with notifier := h.notifier.close }

def run (h : House) (acts : List Act) : House := acts.foldl step h

theorem run_append (h : House) (before later : List Act) : h.run (before ++ later) = (h.run before).run later :=
  List.foldl_append

end House

/-! ### A house in order -/

def Stream.number? : Stream → Option Nat
  | .finished => none
  | .attached number _ => some number

/-- The viewer is there and reads this channel. -/
def Viewer.on (number : Nat) (v : Viewer) : Bool := v.account.present && v.stream.number? = some number

/-- The channels count those viewers who are there, and each of these reads the messages that it has still to get. -/
structure House.Orderly (capacity : Nat) (h : House) : Prop where
  sound : h.notifier.Sound capacity
  counted : ∀ number c, h.notifier.channels[number]? = some c → c.receivers = h.viewers.countP (·.on number)
  placed : ∀ v ∈ h.viewers, v.account.present = true → h.notifier.isClosed = false →
    ∃ number position, v.stream = .attached number position ∧ h.notifier.topics.get? v.account.user = some number
  reads : ∀ v ∈ h.viewers, v.account.present = true → h.notifier.Reads v.account.rest v.stream
  honest : ∀ v ∈ h.viewers, takenIn v.account.receipts ≤ v.account.due.length

namespace Viewer
variable {v : Viewer} {number : Nat}

theorem on_iff : v.on number = true ↔ v.account.present = true ∧ ∃ position, v.stream = .attached number position := by
  obtain ⟨account, _ | ⟨other, position⟩⟩ := v
  · simp [on, Stream.number?]
  · simp only [on, Stream.number?, Bool.and_eq_true, decide_eq_true_iff, Option.some.injEq, Stream.attached.injEq]
    constructor
    · rintro ⟨present, rfl⟩
      exact ⟨present, position, rfl, rfl⟩
    · rintro ⟨present, _, rfl, rfl⟩
      exact ⟨present, rfl⟩

@[simp] theorem present_told (user : UserId) (payload : String) (v : Viewer) :
    (v.told user payload).account.present = v.account.present := by
  unfold told; split <;> rfl

@[simp] theorem user_told (user : UserId) (payload : String) (v : Viewer) :
    (v.told user payload).account.user = v.account.user := by
  unfold told; split <;> rfl

@[simp] theorem receipts_told (user : UserId) (payload : String) (v : Viewer) :
    (v.told user payload).account.receipts = v.account.receipts := by
  unfold told; split <;> rfl

@[simp] theorem stream_told (user : UserId) (payload : String) (v : Viewer) :
    (v.told user payload).stream = v.stream := by
  unfold told; split <;> rfl

/-- A viewer to whom a message is sent has still not got more than there was to get. -/
theorem honest_told (honest : takenIn v.account.receipts ≤ v.account.due.length) (user : UserId) (payload : String) :
    takenIn (v.told user payload).account.receipts ≤ (v.told user payload).account.due.length := by
  rw [receipts_told]
  refine Nat.le_trans honest ?_
  unfold told
  split
  · simp
  · exact Nat.le_refl _

@[simp] theorem on_told (user : UserId) (payload : String) (v : Viewer) (number : Nat) :
    (v.told user payload).on number = v.on number := by
  simp [on]

end Viewer

namespace House.Orderly
variable {capacity : Nat} {h : House}

theorem empty (capacity : Nat) : (House.empty capacity).Orderly capacity :=
  ⟨.make capacity, nofun, nofun, nofun, nofun⟩

/-- A channel that is read is there. -/
theorem below (orderly : h.Orderly capacity) {v : Viewer} (member : v ∈ h.viewers) {number : Nat} (on : v.on number) :
    number < h.notifier.channels.length := by
  obtain ⟨present, position, stream⟩ := Viewer.on_iff.mp on
  have reads := orderly.reads v member present
  rw [stream] at reads
  obtain ⟨c, there, -⟩ := reads
  exact (List.getElem?_eq_some_iff.mp there).1

/-- A new viewer of a user, who has yet to get nothing. The others read on. -/
theorem come (orderly : h.Orderly capacity) {user : UserId} {stream : Stream} {next : Notifier}
    (sound : next.Sound capacity) (closed : next.isClosed = h.notifier.isClosed)
    (counted : ∀ (number : Nat) (c : Channel String), next.channels[number]? = some c →
      c.receivers = h.viewers.countP (·.on number) + if stream.number? = some number then 1 else 0)
    (topics : ∀ other number, h.notifier.topics.get? other = some number → next.topics.get? other = some number)
    (kept : ∀ (number : Nat) (c : Channel String), h.notifier.channels[number]? = some c →
      ∃ c' : Channel String, next.channels[number]? = some c' ∧
        ∀ position rest, c.Follows position rest → c'.Follows position rest)
    (placed : next.isClosed = false →
      ∃ number position, stream = .attached number position ∧ next.topics.get? user = some number)
    (reads : next.Reads [] stream) : Orderly capacity ⟨next, h.viewers ++ [⟨⟨user, true, [], []⟩, stream⟩]⟩ := by
  refine ⟨sound, ?_, ?_, ?_, ?_⟩
  · intro number c there
    rw [List.countP_append, counted number c there]
    simp [Viewer.on]
  · refine List.forall_mem_append.mpr ⟨?_, List.forall_mem_singleton.mpr fun _ => placed⟩
    intro v old present running
    obtain ⟨number, position, stream, topic⟩ := orderly.placed v old present (closed.symm.trans running)
    exact ⟨number, position, stream, topics _ _ topic⟩
  · refine List.forall_mem_append.mpr ⟨?_, List.forall_mem_singleton.mpr fun _ => reads⟩
    intro v old present
    refine (orderly.reads v old present).mono (fun shut => closed.trans shut) ?_
    intro number c there
    obtain ⟨c', there', follows⟩ := kept number c there
    exact ⟨c', there', fun position => follows position _⟩
  · exact List.forall_mem_append.mpr ⟨orderly.honest, List.forall_mem_singleton.mpr (Nat.le_refl 0)⟩

/-- The viewer is one more receiver of the user's channel. -/
theorem join (orderly : h.Orderly capacity) {user : UserId} {number : Nat} {c : Channel String}
    (sound : Notifier.Sound capacity { h.notifier with channels := h.notifier.channels.set number c.attach.1 })
    (topic : h.notifier.topics.get? user = some number) (there : h.notifier.channels[number]? = some c) :
    Orderly capacity ⟨{ h.notifier with channels := h.notifier.channels.set number c.attach.1 },
      h.viewers ++ [⟨⟨user, true, [], []⟩, .attached number c.sent⟩]⟩ := by
  have inside := (List.getElem?_eq_some_iff.mp there).1
  refine orderly.come sound rfl ?_ (fun _ _ topic => topic) ?_ (fun _ => ⟨number, c.sent, rfl, topic⟩) ?_
  · intro other c' there'
    by_cases same : number = other
    · subst same
      rw [List.getElem?_set_self inside] at there'
      cases there'
      simp [← orderly.counted number c there, Stream.number?, Channel.attach]
    · rw [List.getElem?_set_ne same] at there'
      simp [orderly.counted other c' there', Stream.number?, same]
  · intro other c' there'
    by_cases same : number = other
    · subst same
      obtain rfl : c = c' := Option.some.inj (there.symm.trans there')
      exact ⟨_, List.getElem?_set_self inside, fun position rest follows => ⟨follows.behind, follows.kept⟩⟩
    · exact ⟨c', by rw [List.getElem?_set_ne same]; exact there', fun _ _ follows => follows⟩
  · exact ⟨c.attach.1, List.getElem?_set_self inside, c.follows_attach⟩

/-- The viewer is the only receiver of a new channel. -/
theorem begin (orderly : h.Orderly capacity) {user : UserId} {c : Channel String}
    (sound : Notifier.Sound capacity
      { h.notifier with
        topics := h.notifier.topics.set user h.notifier.channels.length
        channels := h.notifier.channels ++ [c.attach.1] })
    (topicless : h.notifier.topics.get? user = none) (unheard : c.receivers = 0) :
    Orderly capacity
      ⟨{ h.notifier with
          topics := h.notifier.topics.set user h.notifier.channels.length
          channels := h.notifier.channels ++ [c.attach.1] },
        h.viewers ++ [⟨⟨user, true, [], []⟩, .attached h.notifier.channels.length c.sent⟩]⟩ := by
  refine orderly.come sound rfl ?_ ?_ ?_ (fun _ => ⟨_, c.sent, rfl, Table.get?_set_self ..⟩) ?_
  · intro other c' there
    rw [List.getElem?_append] at there
    split at there
    · have apart : h.notifier.channels.length ≠ other := by omega
      simp [orderly.counted other c' there, Stream.number?, apart]
    · -- Nobody has read the new channel before.
      have nobody : h.viewers.countP (·.on other) = 0 := by
        refine List.countP_eq_zero.mpr ?_
        intro v member on
        have below := orderly.below member on
        omega
      rw [List.getElem?_singleton] at there
      split at there
      · cases there
        have last : h.notifier.channels.length = other := by omega
        simp [nobody, unheard, Channel.attach, Stream.number?, last]
      · cases there
  · intro other number topic
    rw [Table.get?_set_of_ne]
    · exact topic
    · rintro rfl
      rw [topicless] at topic
      cases topic
  · intro number c' there
    have inside := (List.getElem?_eq_some_iff.mp there).1
    exact ⟨c', List.getElem?_append_left inside ▸ there, fun _ _ follows => follows⟩
  · exact ⟨c.attach.1, by simp, c.follows_attach⟩

theorem subscribe (orderly : h.Orderly capacity) {user : UserId} {stream : Stream} {next : Notifier}
    (subscribed : h.notifier.Subscribed user stream next) :
    Orderly capacity ⟨next, h.viewers ++ [⟨⟨user, true, [], []⟩, stream⟩]⟩ := by
  have sound := orderly.sound.subscribe subscribed
  cases subscribed with
  | shut closed =>
    refine orderly.come sound rfl ?_ (fun _ _ topic => topic) (fun _ c there => ⟨c, there, fun _ _ follows => follows⟩)
      ?_ ⟨rfl, closed⟩
    · exact orderly.counted
    · intro running
      rw [closed] at running
      cases running
  | joined running topic there => exact orderly.join sound topic there
  | opened running topicless opens =>
    obtain ⟨rfl, -⟩ := Channel.open?_eq_some opens
    exact orderly.begin sound topicless rfl

/-- Nobody reads a channel without receivers. -/
theorem absent (orderly : h.Orderly capacity) {number : Nat}
    (unheard : ∀ c, h.notifier.channels[number]? = some c → c.receivers = 0) :
    ∀ v ∈ h.viewers, v.on number = false := by
  intro v member
  by_contra on
  have there := List.getElem?_eq_getElem (orderly.below member (by simpa using on))
  have counted := orderly.counted number _ there
  rw [unheard _ there] at counted
  exact on (by simpa using List.countP_eq_zero.mp counted.symm v member)

/-- Nobody is there for a user without a topic. -/
theorem told_nobody (orderly : h.Orderly capacity) (running : h.notifier.isClosed = false) {user : UserId}
    (absent : ∀ number, h.notifier.topics.get? user = some number → ∀ v ∈ h.viewers, v.on number = false)
    (payload : String) : h.viewers.map (·.told user payload) = h.viewers := by
  refine (List.map_congr_left ?_).trans (List.map_id _)
  intro v member
  refine if_neg ?_
  rintro ⟨present, rfl⟩
  obtain ⟨number, position, stream, topic⟩ := orderly.placed v member present running
  have on : v.on number = true := Viewer.on_iff.mpr ⟨present, position, stream⟩
  rw [absent number topic v member] at on
  cases on

theorem rest_told {v : Viewer} (honest : takenIn v.account.receipts ≤ v.account.due.length)
    (present : v.account.present = true) (payload : String) :
    (v.told v.account.user payload).account.rest = v.account.rest ++ [payload] := by
  rw [Viewer.told, if_pos ⟨present, rfl⟩]
  exact List.drop_append_of_le_length honest

/-- Nobody is there to read the user's channel, and the topic is removed. -/
theorem prune (orderly : h.Orderly capacity) (running : h.notifier.isClosed = false) {user : UserId} {number : Nat}
    (sound : Notifier.Sound capacity { h.notifier with topics := h.notifier.topics.erase user })
    (topic : h.notifier.topics.get? user = some number) (absent : ∀ v ∈ h.viewers, v.on number = false) :
    Orderly capacity ⟨{ h.notifier with topics := h.notifier.topics.erase user }, h.viewers⟩ := by
  refine ⟨sound, orderly.counted, ?_, orderly.reads, orderly.honest⟩
  intro v member present _
  obtain ⟨other, position, stream, topic'⟩ := orderly.placed v member present running
  refine ⟨other, position, stream, ?_⟩
  rw [Table.get?_erase, if_neg]
  · exact topic'
  · rintro rfl
    rw [topic] at topic'
    cases topic'
    have on : v.on number = true := Viewer.on_iff.mpr ⟨present, position, stream⟩
    rw [absent v member] at on
    cases on

/-- A message is one more to get for all who are there for the user. -/
theorem send (orderly : h.Orderly capacity) (running : h.notifier.isClosed = false) {user : UserId} {payload : String}
    {number : Nat} {c c' : Channel String}
    (sound : Notifier.Sound capacity { h.notifier with channels := h.notifier.channels.set number c' })
    (topic : h.notifier.topics.get? user = some number) (there : h.notifier.channels[number]? = some c)
    (sends : c.send? payload = some c') :
    Orderly capacity ⟨{ h.notifier with channels := h.notifier.channels.set number c' },
      h.viewers.map (·.told user payload)⟩ := by
  have inside := (List.getElem?_eq_some_iff.mp there).1
  refine ⟨sound, ?_, List.forall_mem_map.mpr ?_, List.forall_mem_map.mpr ?_, List.forall_mem_map.mpr ?_⟩
  · intro other c'' there'
    have same : h.viewers.countP (·.on other) = (h.viewers.map (·.told user payload)).countP (·.on other) := by
      rw [List.countP_map]
      exact List.countP_congr fun v _ => by simp
    rw [← same]
    by_cases hit : number = other
    · subst hit
      rw [List.getElem?_set_self inside] at there'
      cases there'
      rw [Channel.send?_eq_some sends]
      exact orderly.counted number c there
    · rw [List.getElem?_set_ne hit] at there'
      exact orderly.counted other c'' there'
  · intro v member present _
    rw [Viewer.present_told] at present
    rw [Viewer.stream_told, Viewer.user_told]
    exact orderly.placed v member present running
  · intro v member present
    rw [Viewer.present_told] at present
    rw [Viewer.stream_told]
    have reads := orderly.reads v member present
    obtain ⟨other, position, stream, topic'⟩ := orderly.placed v member present running
    rw [stream] at reads ⊢
    obtain ⟨c'', there', follows⟩ := reads
    by_cases mine : v.account.user = user
    · subst mine
      obtain rfl : number = other := Option.some.inj (topic.symm.trans topic')
      obtain rfl : c = c'' := Option.some.inj (there.symm.trans there')
      rw [rest_told (orderly.honest v member) present]
      exact ⟨c', List.getElem?_set_self inside, follows.send sends⟩
    · have apart : number ≠ other := by
        rintro rfl
        exact mine (orderly.sound.apart _ _ _ topic' topic)
      rw [Viewer.told, if_neg fun both => mine both.2]
      exact ⟨c'', by rw [List.getElem?_set_ne apart]; exact there', follows⟩
  · intro v member
    exact Viewer.honest_told (orderly.honest v member) user payload

theorem deliver (orderly : h.Orderly capacity) (running : h.notifier.isClosed = false) {user : UserId} {payload : String}
    {next : Notifier} (delivers : h.notifier.Delivers user payload next) :
    Orderly capacity ⟨next, h.viewers.map (·.told user payload)⟩ := by
  have sound := orderly.sound.deliver delivers
  cases delivers with
  | dropped topicless =>
    rw [orderly.told_nobody running (fun number topic => by rw [topicless] at topic; cases topic)]
    exact orderly
  | @pruned number topic unheard =>
    have absent := orderly.absent unheard
    rw [orderly.told_nobody running (fun other topic' => by rw [topic] at topic'; cases topic'; exact absent)]
    exact orderly.prune running sound topic absent
  | sent topic there sends => exact orderly.send running sound topic there sends

/-- A viewer takes what comes next of the messages that it has still to get. -/
theorem read_eq (orderly : h.Orderly capacity) {v : Viewer} (member : v ∈ h.viewers)
    (present : v.account.present = true) :
    let receipt := Receipt.next (powerFrom (max capacity 1)) (!h.notifier.isClosed) v.account.rest
    (h.notifier.receive v.stream).1 = receipt ∧ (h.notifier.receive v.stream).2.number? = v.stream.number? ∧
      h.notifier.Reads (v.account.rest.drop receipt.taken) (h.notifier.receive v.stream).2 := by
  have reads := orderly.reads v member present
  cases stream : v.stream with
  | finished =>
    rw [stream] at reads
    obtain ⟨nothing, closed⟩ := reads
    rw [nothing, closed]
    exact ⟨rfl, rfl, rfl, closed⟩
  | attached number position =>
    rw [stream] at reads
    obtain ⟨c, there, follows⟩ := reads
    obtain ⟨full, retention, -, isOpen⟩ := orderly.sound.proper c (List.mem_of_getElem? there)
    have gets := Channel.receive_eq full follows
    rw [retention, isOpen] at gets
    have received : h.notifier.receive (.attached number position) =
        (.next (powerFrom (max capacity 1)) (!h.notifier.isClosed) v.account.rest, .attached number (position +
          (Receipt.next (powerFrom (max capacity 1)) (!h.notifier.isClosed) v.account.rest).taken)) := by
      simp only [Notifier.receive, there, gets]
    rw [received]
    exact ⟨rfl, rfl, c, there, follows.drop (Receipt.taken_next_le ..)⟩

theorem rest_read {v : Viewer} (n : Notifier) :
    (v.read n).account.rest = v.account.rest.drop (n.receive v.stream).1.taken := v.account.rest_receive _

theorem receive (orderly : h.Orderly capacity) {i : Nat} {v : Viewer} (there : h.viewers[i]? = some v)
    (present : v.account.present = true) :
    Orderly capacity { h with viewers := h.viewers.set i (v.read h.notifier) } := by
  have inside := (List.getElem?_eq_some_iff.mp there).1
  have held := (List.getElem?_eq_some_iff.mp there).2
  have member := List.mem_of_getElem? there
  obtain ⟨receipt, number, reads⟩ := orderly.read_eq member present
  refine ⟨orderly.sound, ?_, forall_mem_set orderly.placed ?_ i, forall_mem_set orderly.reads ?_ i,
    forall_mem_set orderly.honest ?_ i⟩
  · intro other c there'
    have same : (v.read h.notifier).on other = v.on other := by
      simp only [Viewer.on, Viewer.read, number]
    rw [orderly.counted other c there', List.countP_set inside, held, same]
    by_cases on : v.on other
    · have some : 0 < h.viewers.countP (·.on other) := List.countP_pos_iff.mpr ⟨v, member, on⟩
      rw [if_pos on]
      omega
    · rw [if_neg on]
      omega
  · intro _ running
    obtain ⟨other, position, stream, topic⟩ := orderly.placed v member present running
    rw [stream] at number
    cases after : (h.notifier.receive v.stream).2 with
    | finished =>
      rw [stream] at after
      rw [after] at number
      cases number
    | attached number' position' =>
      rw [stream] at after
      rw [after] at number
      cases number
      refine ⟨other, position', ?_, topic⟩
      rw [Viewer.read, stream, after]
  · intro _
    rw [rest_read, receipt]
    exact reads
  · have honest := orderly.honest v member
    have few := Receipt.taken_next_le (powerFrom (max capacity 1)) (!h.notifier.isClosed) v.account.rest
    have length : v.account.rest.length = v.account.due.length - takenIn v.account.receipts := List.length_drop
    change takenIn (v.account.receipts ++ [(h.notifier.receive v.stream).1]) ≤ v.account.due.length
    rw [takenIn_append, receipt]
    omega

/-- A viewer that has left is not counted any more. -/
theorem leave (orderly : h.Orderly capacity) {i : Nat} {v : Viewer} (there : h.viewers[i]? = some v)
    (present : v.account.present = true) :
    Orderly capacity ⟨h.notifier.unsubscribe v.stream, h.viewers.set i v.gone⟩ := by
  have inside := (List.getElem?_eq_some_iff.mp there).1
  have held := (List.getElem?_eq_some_iff.mp there).2
  have member := List.mem_of_getElem? there
  have off : ∀ number, v.gone.on number = false := fun _ => rfl
  refine ⟨orderly.sound.unsubscribe v.stream, ?_, ?_, ?_, forall_mem_set orderly.honest ?_ i⟩
  · intro number c there'
    rw [List.countP_set inside, held, off]
    cases stream : v.stream with
    | finished =>
      rw [stream] at there'
      rw [orderly.counted number c there']
      simp [Viewer.on, stream, Stream.number?]
    | attached other position =>
      rw [stream, Notifier.unsubscribe, List.getElem?_modify] at there'
      obtain ⟨old, before, rfl⟩ := Option.map_eq_some_iff.mp there'
      have counted := orderly.counted number old before
      by_cases same : other = number
      · have on : v.on number = true := Viewer.on_iff.mpr ⟨present, position, by rw [stream, same]⟩
        simp [same, on, Channel.detach, counted]
      · have on : v.on number = false := by simp [Viewer.on, stream, Stream.number?, same]
        simp [same, on, counted]
  · refine forall_mem_set ?_ (fun here => by cases here) i
    intro v' old present' running
    rw [Notifier.isClosed_unsubscribe] at running
    rw [Notifier.topics_unsubscribe]
    exact orderly.placed v' old present' running
  · refine forall_mem_set ?_ (fun here => by cases here) i
    intro v' old present'
    exact (orderly.reads v' old present').unsubscribe v.stream
  · exact orderly.honest v member

/-- All can still read what their channels keep after the notifier was closed. -/
theorem close (orderly : h.Orderly capacity) : Orderly capacity { h with notifier := h.notifier.close } := by
  refine ⟨orderly.sound.close, ?_, nofun, ?_, orderly.honest⟩
  · intro number c there
    rw [Notifier.close, List.getElem?_map] at there
    obtain ⟨old, before, rfl⟩ := Option.map_eq_some_iff.mp there
    exact orderly.counted number old before
  · intro v member present
    exact (orderly.reads v member present).close

theorem step (orderly : h.Orderly capacity) (act : Act) : (h.step act).Orderly capacity := by
  cases act with
  | subscribe user =>
    simp only [House.step]
    split
    · exact orderly.subscribe (Notifier.subscribed ‹_›)
    · exact orderly
  | publish user post =>
    simp only [House.step]
    split
    next published next given =>
      obtain ⟨running, delivers⟩ := Notifier.delivers given
      exact orderly.deliver running delivers
    · exact orderly
  | receive i =>
    simp only [House.step]
    split
    · split
      · exact orderly.receive ‹_› ‹_›
      · exact orderly
    · exact orderly
  | leave i =>
    simp only [House.step]
    split
    · split
      · exact orderly.leave ‹_› ‹_›
      · exact orderly
    · exact orderly
  | close => exact orderly.close

theorem run (orderly : h.Orderly capacity) (acts : List Act) : (h.run acts).Orderly capacity := by
  induction acts generalizing h with
  | nil => exact orderly
  | cons act acts ih => exact ih (orderly.step act)

end House.Orderly
end FeedFanout.Live
