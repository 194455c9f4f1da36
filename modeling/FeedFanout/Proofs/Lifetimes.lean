import FeedFanout.Proofs.Accounts
import FeedFanout.World
import Mathlib.Data.List.Dedup
import Mathlib.Data.List.Perm.Subperm

/-!
Lifetimes of topics. Behind a message to a user there is a topic of theirs exactly if somebody is there to read it
(`House.Orderly.viewed`), and there are never more topics than users whom viewers came for (`House.topicCount_le`). Once
the notifier is closed there are none (`House.topicCount_closed`), and every stream gives what is left on it, and ends
(`House.Orderly.runsOut`).
-/
namespace FeedFanout.Live

/-! ### What is left on a stream -/

namespace Receipt
variable {α : Type}

/-- What a receiver gets of the messages that it has still to get when no others are sent: how many of them are lost, if
there are more than are kept, and then those that are kept. -/
def remaining (retention : Nat) (rest : List α) : List (Receipt α) :=
  (if retention < rest.length then [lagged (rest.length - retention)] else []) ++
    (rest.drop (rest.length - retention)).map message

theorem remaining_near {retention : Nat} {rest : List α} (near : rest.length ≤ retention) :
    remaining retention rest = rest.map message := by
  simp [remaining, Nat.not_lt.mpr near, Nat.sub_eq_zero_of_le near]

/-- The next receipt is the first of those that remain. -/
theorem remaining_eq_cons (retention : Nat) (isOpen : Bool) {rest : List α} (more : rest ≠ []) :
    remaining retention rest = next retention isOpen rest ::
      remaining retention (rest.drop (next retention isOpen rest).taken) := by
  obtain ⟨value, later, rfl⟩ := List.exists_cons_of_ne_nil more
  rw [next_cons]
  by_cases late : retention < later.length + 1
  · have kept : ((value :: later).drop (later.length + 1 - retention)).length ≤ retention := by
      rw [List.length_drop, List.length_cons]
      omega
    rw [if_pos late, taken, remaining_near kept, remaining, List.length_cons, if_pos late]
    rfl
  · rw [if_neg late, remaining_near (Nat.not_lt.mp late)]
    exact congrArg (message value :: ·) (remaining_near (by omega)).symm

/-- The first receipts of a receiver when nothing is sent any more. Behind those that remain it is told that the channel is
closed. -/
def farewell (retention : Nat) (n : Nat) (rest : List α) : List (Receipt α) :=
  (remaining retention rest ++ List.replicate n closed).take n

theorem farewell_succ (retention n : Nat) (rest : List α) :
    farewell retention (n + 1) rest =
      next retention false rest :: farewell retention n (rest.drop (next retention false rest).taken) := by
  by_cases more : rest = []
  · subst more
    simp [farewell, remaining, next, List.replicate_succ]
  · have spare : ∀ k : Nat, min (n - k) (n + 1) = min (n - k) n := by omega
    rw [farewell, remaining_eq_cons retention false more, List.cons_append, List.take_succ_cons]
    simp only [farewell, List.take_append, List.take_replicate, spare]

end Receipt

/-! ### What happens to topics -/

namespace Notifier
variable {n next : Notifier} {user : UserId}

/-- A running notifier does not fail. -/
theorem publish_running (running : n.isClosed = false) (user : UserId) (post : Post) :
    ∃ published next, n.publish user post = .ok (published, next) := by
  cases given : n.publish user post with
  | error e => cases (isClosed_of_publish given).symm.trans running
  | ok done => exact ⟨done.1, done.2, rfl⟩

theorem publish_closed (closed : n.isClosed = true) (user : UserId) (post : Post) :
    n.publish user post = .error (.transport "notifier is closed") := if_pos closed

/-- A message makes no topic. -/
theorem Delivers.topics {payload : String} (delivers : n.Delivers user payload next) {other : UserId} {number : Nat}
    (topic : next.topics.get? other = some number) : n.topics.get? other = some number := by
  cases delivers with
  | dropped | sent => exact topic
  | pruned =>
    rw [Table.get?_erase] at topic
    split at topic
    · cases topic
    · exact topic

end Notifier

/-- The user whom a viewer comes for. -/
def Act.subscriber? : Act → Option UserId
  | .subscribe user => some user
  | _ => none

/-- Users whom viewers came for. -/
def subscribers (acts : List Act) : List UserId := acts.filterMap Act.subscriber?

theorem mem_subscribers {user : UserId} {acts : List Act} : user ∈ subscribers acts ↔ .subscribe user ∈ acts := by
  rw [subscribers, List.mem_filterMap]
  constructor
  · rintro ⟨act, member, comes⟩
    cases act <;> cases comes
    exact member
  · exact fun member => ⟨_, member, rfl⟩

namespace House
variable {capacity : Nat} {h : House}

theorem isClosed_run (h : House) (acts : List Act) :
    (h.run acts).notifier.isClosed = (h.notifier.isClosed || acts.any Act.closes) := by
  induction acts generalizing h with
  | nil => exact (Bool.or_false _).symm
  | cons act acts ih =>
    change ((h.step act).run acts).notifier.isClosed = _
    rw [ih, isClosed_step, List.any_cons, Bool.or_assoc]

/-- Each user has one topic, and somebody came for them. -/
structure Listed (users : List UserId) (topics : Table UserId Nat) : Prop where
  distinct : topics.keys.Nodup
  wanted : ∀ user ∈ topics.keys, user ∈ users

theorem Listed.set {users : List UserId} {topics : Table UserId Nat} (listed : Listed users topics) {user : UserId}
    (wanted : user ∈ users) (number : Nat) : Listed users (topics.set user number) := by
  refine ⟨Table.nodup_setRows user number listed.distinct, ?_⟩
  intro other member
  obtain ⟨row, among, rfl⟩ := List.mem_map.mp member
  obtain rfl | old := Table.mem_setRows among
  · exact wanted
  · exact listed.wanted _ (List.mem_map_of_mem old)

theorem Listed.erase {users : List UserId} {topics : Table UserId Nat} (listed : Listed users topics)
    (user : UserId) : Listed users (topics.erase user) := by
  have fewer : (topics.erase user).keys.Sublist topics.keys := List.filter_sublist.map Prod.fst
  exact ⟨listed.distinct.sublist fewer, fun other member => listed.wanted other (fewer.subset member)⟩

theorem Listed.empty (users : List UserId) : Listed users .empty := ⟨.nil, nofun⟩

theorem Listed.step {users : List UserId} (listed : Listed users h.notifier.topics) (act : Act)
    (wanted : ∀ user, act = .subscribe user → h.notifier.isClosed = false → user ∈ users) :
    Listed users (h.step act).notifier.topics := by
  cases act with
  | subscribe user =>
    simp only [House.step]
    split
    next stream next given =>
      cases Notifier.subscribed given with
      | shut | joined => exact listed
      | opened running => exact listed.set (wanted user rfl running) _
    · exact listed
  | publish user post =>
    simp only [House.step]
    split
    next published next given =>
      cases (Notifier.delivers given).2 with
      | dropped | sent => exact listed
      | pruned => exact listed.erase user
    · exact listed
  | receive i =>
    simp only [House.step]
    split
    · split <;> exact listed
    · exact listed
  | leave i =>
    simp only [House.step]
    split
    · split
      · rw [Notifier.topics_unsubscribe]
        exact listed
      · exact listed
    · exact listed
  | close => exact .empty users

theorem listed_run (h : House) {users : List UserId} (listed : Listed users h.notifier.topics) (acts : List Act)
    (wanted : ∀ user, .subscribe user ∈ acts → h.notifier.isClosed = false → user ∈ users) :
    Listed users (h.run acts).notifier.topics := by
  induction acts generalizing h with
  | nil => exact listed
  | cons act acts ih =>
    refine ih (h.step act) (listed.step act ?_) ?_
    · rintro user rfl
      exact wanted user List.mem_cons_self
    · intro user member running
      rw [isClosed_step, Bool.or_eq_false_iff] at running
      exact wanted user (List.mem_cons_of_mem _ member) running.1

theorem Listed.size_le {users : List UserId} {topics : Table UserId Nat} (listed : Listed users topics) :
    topics.size ≤ users.dedup.length := by
  have few := listed.distinct.subperm fun user member => List.mem_dedup.mpr (listed.wanted user member)
  have length := few.length_le
  rwa [Table.keys, List.length_map] at length

/-- There are no more topics than users whom viewers came for. -/
theorem topicCount_le (capacity : Nat) (acts : List Act) :
    ((House.empty capacity).run acts).notifier.topicCount ≤ (subscribers acts).dedup.length :=
  (listed_run (House.empty capacity) (.empty _) acts fun _ member _ => mem_subscribers.mpr member).size_le

/-- Once it is closed, a notifier has no topics. -/
theorem topicCount_closed (h : House) (acts : List Act) : ((h.step .close).run acts).notifier.topicCount = 0 := by
  have none := listed_run (h.step .close) (.empty []) acts nofun
  exact Nat.le_zero.mp none.size_le

/-! ### Who is on a topic -/

namespace Orderly

/-- Behind a message to a user there is a topic of theirs exactly if somebody views it. -/
theorem viewed (orderly : h.Orderly capacity) (running : h.notifier.isClosed = false) {user : UserId}
    {payload : String} {next : Notifier} (delivers : h.notifier.Delivers user payload next) :
    (next.topics.get? user).isSome = true ↔
      ∃ v ∈ h.viewers, v.account.present = true ∧ v.account.user = user := by
  have on_topic : ∀ v ∈ h.viewers, v.account.present = true → v.account.user = user →
      ∃ number, h.notifier.topics.get? user = some number ∧ v.on number = true := by
    rintro v member present rfl
    obtain ⟨number, position, stream, topic⟩ := orderly.placed v member present running
    exact ⟨number, topic, Viewer.on_iff.mpr ⟨present, position, stream⟩⟩
  cases delivers with
  | dropped topicless =>
    rw [topicless]
    refine ⟨nofun, ?_⟩
    rintro ⟨v, member, present, mine⟩
    obtain ⟨number, topic, -⟩ := on_topic v member present mine
    cases topicless.symm.trans topic
  | @sent number c c' topic there sends =>
    refine ⟨fun _ => ?_, fun _ => by rw [topic]; rfl⟩
    have heard : c.receivers ≠ 0 := by
      intro none
      rw [Channel.send?, if_pos none] at sends
      cases sends
    rw [orderly.counted number c there] at heard
    obtain ⟨v, member, on⟩ := List.countP_pos_iff.mp (Nat.pos_of_ne_zero heard)
    obtain ⟨present, position, stream⟩ := Viewer.on_iff.mp on
    obtain ⟨other, position', stream', topic'⟩ := orderly.placed v member present running
    cases stream.symm.trans stream'
    exact ⟨v, member, present, orderly.sound.apart _ _ _ topic' topic⟩
  | @pruned number topic unheard =>
    rw [Table.get?_erase, if_pos rfl]
    refine ⟨nofun, ?_⟩
    rintro ⟨v, member, present, mine⟩
    obtain ⟨other, topic', on⟩ := on_topic v member present mine
    cases topic.symm.trans topic'
    rw [orderly.absent unheard v member] at on
    cases on

/-- Whoever is there reads the topic of its user. -/
theorem on_topic (orderly : h.Orderly capacity) (running : h.notifier.isClosed = false) {v : Viewer}
    (member : v ∈ h.viewers) (present : v.account.present = true) :
    ∃ number c, h.notifier.topic? v.account.user = some (number, c) ∧ v.stream.number? = some number := by
  obtain ⟨number, position, stream, topic⟩ := orderly.placed v member present running
  have inside := orderly.sound.inside _ _ topic
  exact ⟨number, h.notifier.channels[number], by simp [Notifier.topic?, topic, inside], by rw [stream]; rfl⟩

end Orderly

/-! ### The end of streams -/

/-- How often the viewer with a number reads before it leaves. -/
def readings (i : Nat) : List Act → Nat
  | [] => 0
  | .receive j :: acts => if j = i then readings i acts + 1 else readings i acts
  | .leave j :: acts => if j = i then 0 else readings i acts
  | .subscribe _ :: acts | .publish .. :: acts | .close :: acts => readings i acts

namespace Orderly
variable {i : Nat} {a : Account}

/-- Who has left gets nothing. -/
theorem receipts_gone (orderly : h.Orderly capacity) (there : h.accounts[i]? = some a) (gone : a.present = false)
    (acts : List Act) : ∃ b, (h.run acts).accounts[i]? = some b ∧ b.receipts = a.receipts := by
  induction acts generalizing h a with
  | nil => exact ⟨a, there, rfl⟩
  | cons act acts ih =>
    have same : (a.after (powerFrom (max capacity 1)) (!h.notifier.isClosed) i act).receipts = a.receipts := by
      cases act with
      | publish | leave =>
        simp only [Account.after]
        split <;> rfl
      | receive => simp [Account.after, gone]
      | subscribe | close => rfl
    obtain ⟨b, held, receipts⟩ := ih (orderly.step act) (orderly.account there act) (present_after gone ..)
    exact ⟨b, held, receipts.trans same⟩

/-- A viewer of a closed notifier gets what is left on its stream, and then is told that there is no more. -/
theorem runsOut (orderly : h.Orderly capacity) (closed : h.notifier.isClosed = true) (there : h.accounts[i]? = some a)
    (present : a.present = true) (acts : List Act) :
    ∃ b, (h.run acts).accounts[i]? = some b ∧
      b.receipts = a.receipts ++ Receipt.farewell (powerFrom (max capacity 1)) (readings i acts) a.rest := by
  induction acts generalizing h a with
  | nil => exact ⟨a, there, by simp [readings, Receipt.farewell]⟩
  | cons act acts ih =>
    have next := orderly.account there act
    rw [closed] at next
    have still : (h.step act).notifier.isClosed = true := by rw [isClosed_step, closed, Bool.true_or]
    cases act with
    | subscribe | close => exact ih (orderly.step _) still next present
    | publish user post =>
      rw [Account.after, if_neg (by simp)] at next
      exact ih (orderly.step _) still next present
    | leave j =>
      by_cases mine : j = i
      · rw [Account.after, if_pos ⟨mine, present⟩] at next
        obtain ⟨b, held, receipts⟩ := (orderly.step _).receipts_gone next rfl acts
        exact ⟨b, held, by simpa [readings, mine, Receipt.farewell] using receipts⟩
      · rw [Account.after, if_neg fun both => mine both.1] at next
        rw [readings, if_neg mine]
        exact ih (orderly.step _) still next present
    | receive j =>
      by_cases mine : j = i
      · rw [Account.after, if_pos ⟨mine, present⟩] at next
        obtain ⟨b, held, receipts⟩ := ih (orderly.step _) still next present
        refine ⟨b, held, receipts.trans ?_⟩
        rw [readings, if_pos mine, Receipt.farewell_succ, Account.rest_receive, List.append_assoc]
        rfl
      · rw [Account.after, if_neg fun both => mine both.1] at next
        rw [readings, if_neg mine]
        exact ih (orderly.step _) still next present

end Orderly

/-! ### Topics and streams after any acts -/

/-- What holds of topics and of the streams on them after some acts. -/
structure Lifetimes (capacity : Nat) (acts : List Act) (h : House) : Prop where
  /-- A closed notifier refuses every post, and nothing comes of it. -/
  refuses : h.notifier.isClosed = true → ∀ (w : World) (user : UserId) (post : Post), w.notifier = h.notifier →
    (w.perform (.publish user post)).reply = .error (.transport "notifier is closed") ∧
      (w.perform (.publish user post)).world = w
  /-- A running one takes every post, and makes no topic for it. The user then has a topic if somebody views it, and the
  topics of the others are as before. -/
  takes : h.notifier.isClosed = false → ∀ (user : UserId) (post : Post), ∃ published next,
    h.notifier.publish user post = .ok (published, next) ∧
      (∀ other number, next.topics.get? other = some number → h.notifier.topics.get? other = some number) ∧
      ((next.topics.get? user).isSome = true ↔
        ∃ v ∈ h.viewers, v.account.present = true ∧ v.account.user = user) ∧
      ∀ other, other ≠ user → next.topic? other = h.notifier.topic? other
  /-- Those who are there for a user are all on the user's topic. -/
  shared : h.notifier.isClosed = false → ∀ v ∈ h.viewers, v.account.present = true →
    ∃ number c, h.notifier.topic? v.account.user = some (number, c) ∧ v.stream.number? = some number
  /-- A viewer is to get what is published to its user from when it came. It is told of all that it is done with, and the
  rest is on its stream. If it was never far behind, it has received all that it is done with. -/
  supplied : ∀ i v, h.viewers[i]? = some v →
    (∃ before later, acts = before ++ .subscribe v.account.user :: later ∧
      ((House.empty capacity).run before).viewers.length = i ∧ v.account.due =
        if ((House.empty capacity).run before).notifier.isClosed then [] else published v.account.user i later) ∧
    (∃ passed, v.account.due = passed ++ v.account.rest ∧ Explains v.account.receipts passed) ∧
    (v.account.present = true → h.notifier.Reads v.account.rest v.stream) ∧
    ((∀ earlier, earlier <+: acts → ∀ w, ((House.empty capacity).run earlier).viewers[i]? = some w →
        w.account.rest.length ≤ max capacity 1) →
      v.account.due = received v.account.receipts ++ v.account.rest)
  few : h.notifier.topicCount ≤ (subscribers acts).dedup.length
  /-- Behind a closing there are no topics, and whoever comes finds the stream finished. -/
  closed : .close ∈ acts → h.notifier.topicCount = 0 ∧
    ∀ user, h.notifier.subscribe? user = some (.finished, h.notifier) ∧
      h.notifier.receive .finished = (.closed, .finished)
  /-- Who was there at a closing gets what is left, and then no more. -/
  runsOut : ∀ before later, acts = before ++ .close :: later → ∀ i v,
    ((House.empty capacity).run before).viewers[i]? = some v → v.account.present = true →
      ∃ w, h.viewers[i]? = some w ∧ w.account.receipts = v.account.receipts ++
        Receipt.farewell (powerFrom (max capacity 1)) (readings i later) v.account.rest

/-- Topics come with viewers, are shared by them, and go when all have left or the notifier is closed. -/
theorem lifetimes (capacity : Nat) (acts : List Act) : Lifetimes capacity acts ((House.empty capacity).run acts) := by
  have begun := Orderly.empty capacity
  have orderly := begun.run acts
  refine ⟨?_, ?_, fun running v member present => orderly.on_topic running member present, ?_,
    topicCount_le capacity acts, ?_, ?_⟩
  · intro closed w user post same
    have refused := Notifier.publish_closed (same ▸ closed) user post
    simp only [World.perform, refused, and_self]
  · intro running user post
    obtain ⟨published, next, given⟩ := Notifier.publish_running running user post
    obtain ⟨-, delivers⟩ := Notifier.delivers given
    exact ⟨published, next, given, fun _ _ topic => delivers.topics topic, orderly.viewed running delivers,
      fun _ apart => delivers.topic? orderly.sound apart⟩
  · intro i v there
    have held : ((House.empty capacity).run acts).accounts[i]? = some v.account := by simp [accounts, there]
    refine ⟨?_, accounted_run capacity acts _ (List.mem_of_getElem? held),
      orderly.reads v (List.mem_of_getElem? there), received_of_near there⟩
    obtain ⟨before, later, split, number, due⟩ := due_eq begun (Nat.zero_le i) held
    exact ⟨before, later, split, by simpa [accounts] using number, due⟩
  · intro closing
    obtain ⟨before, later, rfl⟩ := List.append_of_mem closing
    refine ⟨?_, fun user => ⟨if_pos ?_, rfl⟩⟩
    · rw [run_append]
      exact topicCount_closed _ later
    · rw [isClosed_run]
      simp [Act.closes]
  · rintro before later rfl i v there present
    have closing := (begun.run before).step .close
    have held : (((House.empty capacity).run before).step .close).accounts[i]? = some v.account := by
      simp [accounts, House.step, there]
    obtain ⟨b, kept, receipts⟩ := closing.runsOut rfl held present later
    obtain ⟨w, there', rfl⟩ := viewer_of kept
    exact ⟨w, by rw [run_append]; exact there', receipts⟩

end House
end FeedFanout.Live
