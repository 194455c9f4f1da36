import FeedFanout.Proofs.Accounts
import FeedFanout.Proofs.EventTexts
import FeedFanout.Proofs.Listings

/-!
Clients that watch. A client holds an event stream, reads it at any moments while posts are published and other viewers
come and go, and is sent the frames that it reads (`Watch.run`). The events in all that it was sent are the posts that
its viewer has received (`Watch.events_run`), since a post has the same wire form everywhere, without control
characters (`wireForms`).
-/
namespace FeedFanout.Live.House
variable {capacity : Nat} {h : House} {i : Nat} {v : Viewer}

theorem step_receive (there : h.viewers[i]? = some v) (present : v.account.present = true) :
    h.step (.receive i) = { h with viewers := h.viewers.set i (v.read h.notifier) } := by
  rw [step, there]
  exact if_pos present

theorem viewers_receive (there : h.viewers[i]? = some v) (present : v.account.present = true) :
    (h.step (.receive i)).viewers[i]? = some (v.read h.notifier) := by
  rw [step_receive there present]
  exact List.getElem?_set_self (List.getElem?_eq_some_iff.mp there).1

/-- Only the viewer itself takes something from its stream. -/
theorem viewers_other (there : h.viewers[i]? = some v) {act : Act} (other : act ≠ .receive i) :
    ∃ w, (h.step act).viewers[i]? = some w ∧ w.stream = v.stream ∧ w.account.receipts = v.account.receipts ∧
      (w.account.present = true → v.account.present = true) := by
  have same : ∃ w, h.viewers[i]? = some w ∧ w.stream = v.stream ∧ w.account.receipts = v.account.receipts ∧
      (w.account.present = true → v.account.present = true) := ⟨v, there, rfl, rfl, id⟩
  have inside := (List.getElem?_eq_some_iff.mp there).1
  cases act with
  | subscribe user =>
    simp only [step]
    split
    · exact ⟨v, by rw [List.getElem?_append_left inside]; exact there, rfl, rfl, id⟩
    · exact same
  | publish user post =>
    simp only [step]
    split
    · exact ⟨v.told user post.wire, by simp [there], by simp, by simp, by simp⟩
    · exact same
  | receive j =>
    have apart : j ≠ i := fun mine => other (mine ▸ rfl)
    simp only [step]
    split
    · split
      · exact ⟨v, by rw [List.getElem?_set_ne apart]; exact there, rfl, rfl, id⟩
      · exact same
    · exact same
  | leave j =>
    simp only [step]
    by_cases mine : j = i
    · subst mine
      rw [there]
      dsimp only
      split
      · exact ⟨v.gone, List.getElem?_set_self inside, rfl, rfl, fun gone => absurd gone Bool.false_ne_true⟩
      · exact same
    · split
      · split
        · exact ⟨v, by rw [List.getElem?_set_ne mine]; exact there, rfl, rfl, id⟩
        · exact same
      · exact same
  | close => exact same

/-- What is published are wire forms. -/
theorem published_eq (user : UserId) (i : Nat) (acts : List Act) :
    ∃ posts : List Post, published user i acts = posts.map Post.wire ∧ ∀ post ∈ posts, .publish user post ∈ acts := by
  induction acts with
  | nil => exact ⟨[], rfl, nofun⟩
  | cons act acts ih =>
    obtain ⟨posts, same, member⟩ := ih
    have later : ∀ post ∈ posts, Act.publish user post ∈ act :: acts := fun post among =>
      List.mem_cons_of_mem act (member post among)
    cases act with
    | publish other post =>
      simp only [published]
      split
      next mine =>
        subst mine
        exact ⟨post :: posts, by rw [same, List.map_cons], List.forall_mem_cons.mpr ⟨List.mem_cons_self, later⟩⟩
      · exact ⟨posts, same, later⟩
    | leave j =>
      simp only [published]
      split
      · exact ⟨[], rfl, nofun⟩
      · exact ⟨posts, same, later⟩
    | close => exact ⟨[], rfl, nofun⟩
    | subscribe | receive => exact ⟨posts, same, later⟩

/-- What a viewer has received are wire forms. -/
theorem received_eq {acts : List Act} (there : ((House.empty capacity).run acts).viewers[i]? = some v) :
    ∃ posts : List Post, received v.account.receipts = posts.map Post.wire := by
  have begun := Orderly.empty capacity
  have held : ((House.empty capacity).run acts).accounts[i]? = some v.account := by simp [accounts, there]
  have sublist := (accounted_run capacity acts _ (List.mem_of_getElem? held)).sublist
  obtain ⟨before, later, -, -, due⟩ := due_eq begun (Nat.zero_le i) held
  obtain ⟨posts, same, -⟩ := published_eq v.account.user i later
  rw [due, same] at sublist
  split at sublist
  · exact ⟨[], List.sublist_nil.mp sublist⟩
  · obtain ⟨some, -, eq⟩ := List.sublist_map_iff.mp sublist
    exact ⟨some, eq⟩

/-- A new viewer receives some of what is published to its user from then on, in order. -/
theorem received_sublist {before later : List Act} {user : UserId} {stream : Stream} {next : Notifier}
    (comes : ((House.empty capacity).run before).notifier.subscribe? user = some (stream, next))
    (number : ((House.empty capacity).run before).viewers.length = i)
    (there : ((House.empty capacity).run (before ++ .subscribe user :: later)).viewers[i]? = some v) :
    (received v.account.receipts).Sublist (published user i later) := by
  have begun := Orderly.empty capacity
  have orderly := (begun.run before).step (.subscribe user)
  have new : (((House.empty capacity).run before).step (.subscribe user)).accounts[i]? = some ⟨user, true, [], []⟩ := by
    simp [accounts, step, comes, ← number]
  have held : ((House.empty capacity).run (before ++ .subscribe user :: later)).accounts[i]? = some v.account := by
    simp [accounts, there]
  have sublist := (accounted_run capacity _ _ (List.mem_of_getElem? held)).sublist
  rw [run_append] at held
  have due : v.account.due = [] ∨ v.account.due = published user i later := by
    cases closed : (((House.empty capacity).run before).step (.subscribe user)).notifier.isClosed with
    | true =>
      obtain ⟨b, held', -, due⟩ := due_of_deaf orderly new (.inr closed) later
      obtain rfl := Option.some.inj (held'.symm.trans held)
      exact .inl due
    | false =>
      obtain ⟨b, held', -, due⟩ := due_of_run orderly new rfl closed later
      obtain rfl := Option.some.inj (held'.symm.trans held)
      exact .inr due
  obtain due | due := due <;> rw [due] at sublist
  · exact sublist.trans (List.nil_sublist _)
  · exact sublist

end FeedFanout.Live.House

namespace FeedFanout.Http
open Live (Act House Receipt Viewer received)

/-! ### What a client is sent -/

/-- The text of a frame. -/
def Frame.text : Frame → String
  | .data text => text
  | .pending | .ended => ""

/-- The event of a message. -/
def ServerEvent.ofPayload (payload : String) : ServerEvent := ⟨"post", payload⟩

/-- A receipt is one event if it is a message, and else it is none. -/
theorem events_frame (es : EventStream) (now : Nat) {receipt : Receipt String}
    (visible : ∀ payload, receipt = .message payload → Visible payload.toList) (rest : List Char) :
    events ((es.frame now receipt).1.text.toList ++ rest) =
      receipt.message?.toList.map .ofPayload ++ events rest := by
  cases receipt with
  | message payload => exact events_eventFrame (visible payload rfl) rest
  | closed => rfl
  | empty | lagged =>
    simp only [EventStream.frame]
    split
    · exact events_keepAlive rest
    · rfl

namespace EventStream
variable {es : EventStream} {n : Live.Notifier} {stream : Live.Stream}

theorem stream_frame (es : EventStream) (now : Nat) (receipt : Receipt String) :
    (es.frame now receipt).2.stream = es.stream := by
  cases receipt with
  | message | closed => rfl
  | empty | lagged =>
    simp only [frame]
    split <;> rfl

theorem read_eq {receipt : Receipt String} (given : n.receive es.stream = (receipt, stream))
    (prompt : ∀ missed, receipt ≠ .lagged missed) (now : Nat) :
    es.read n now = (({ es with stream }.frame now receipt).1, ({ es with stream }.frame now receipt).2, none) := by
  cases receipt with
  | lagged missed => exact absurd rfl (prompt missed)
  | message | empty | closed => simp only [read, given]

/-- A stream that was too far behind goes on with what is left. -/
theorem read_lagged {missed : Nat} (given : n.receive es.stream = (.lagged missed, stream)) (now : Nat) :
    es.read n now = (({ es with stream := (n.receive stream).2 }.frame now (n.receive stream).1).1,
      ({ es with stream := (n.receive stream).2 }.frame now (n.receive stream).1).2, some missed) := by
  simp only [read, given]

end EventStream

theorem visible_wire (post : Post) : Visible post.wire.toList := by
  rw [Post.wire, String.toList_ofList]
  exact post.visible_wireChars

/-- A client with an event stream, which is one of the viewers in a house. -/
structure Watch where
  house : House
  /-- Its number as a viewer. -/
  number : Nat
  stream : EventStream
  /-- All that it was sent. -/
  sent : String

namespace Watch

/-- A client comes for the posts to a user. -/
def open? (h : House) (user : UserId) (now : Nat) : Option Watch :=
  match h.notifier.subscribe? user with
  | some (stream, _) => some ⟨h.step (.subscribe user), h.viewers.length, ⟨user, stream, now⟩, ""⟩
  | none => none

/-- The client has not left. -/
def isThere (w : Watch) : Bool := (w.house.viewers[w.number]?).any (·.account.present)

/-- The client reads its stream, which goes on behind a loss at once. -/
def look (w : Watch) (now : Nat) : Watch :=
  let (frame, stream, missed) := w.stream.read w.house.notifier now
  let house := w.house.step (.receive w.number)
  let house := if missed.isSome then house.step (.receive w.number) else house
  { w with house, stream, sent := w.sent ++ frame.text }

/-- Something happens at some moment. What the client receives is read by its event stream. -/
def step (w : Watch) (now : Nat) : Act → Watch
  | .receive i =>
    if i = w.number then if w.isThere then w.look now else w
    else { w with house := w.house.step (.receive i) }
  | act => { w with house := w.house.step act }

def run (w : Watch) (acts : List (Nat × Act)) : Watch := acts.foldl (fun w act => w.step act.1 act.2) w

variable {w : Watch} {v : Viewer} {now : Nat}

/-- The events in a text are the messages among some receipts, whatever comes behind it. -/
def Tells (receipts : List (Receipt String)) (sent : String) : Prop :=
  ∀ rest, events (sent.toList ++ rest) = (received receipts).map .ofPayload ++ events rest

theorem Tells.none : Tells [] "" := fun _ => rfl

theorem Tells.lagged {receipts : List (Receipt String)} {sent : String} (tells : Tells receipts sent) (missed : Nat) :
    Tells (receipts ++ [.lagged missed]) sent := by
  intro rest
  rw [Live.received_append, List.map_append, List.append_assoc]
  exact tells rest

theorem Tells.frame {receipts : List (Receipt String)} {sent : String} (tells : Tells receipts sent)
    {receipt : Receipt String}
    (visible : ∀ payload ∈ received (receipts ++ [receipt]), Visible payload.toList) (es : EventStream) (now : Nat) :
    Tells (receipts ++ [receipt]) (sent ++ (es.frame now receipt).1.text) := by
  intro rest
  rw [Live.received_append] at visible
  have shown : ∀ payload, receipt = .message payload → Visible payload.toList := by
    rintro payload rfl
    exact visible payload (List.mem_append_right _ List.mem_cons_self)
  rw [String.toList_append, List.append_assoc, tells, events_frame es now shown, Live.received_append, List.map_append,
    List.append_assoc]

theorem look_prompt {receipt : Receipt String} {later : Live.Stream}
    (given : w.house.notifier.receive w.stream.stream = (receipt, later)) (prompt : ∀ missed, receipt ≠ .lagged missed)
    (now : Nat) :
    w.look now = ⟨w.house.step (.receive w.number), w.number, ({ w.stream with stream := later }.frame now receipt).2,
      w.sent ++ ({ w.stream with stream := later }.frame now receipt).1.text⟩ := by
  simp [look, EventStream.read_eq given prompt now]

theorem look_lagged {missed : Nat} {receipt : Receipt String} {later last : Live.Stream}
    (given : w.house.notifier.receive w.stream.stream = (.lagged missed, later))
    (next : w.house.notifier.receive later = (receipt, last)) (now : Nat) :
    w.look now = ⟨(w.house.step (.receive w.number)).step (.receive w.number), w.number,
      ({ w.stream with stream := last }.frame now receipt).2,
      w.sent ++ ({ w.stream with stream := last }.frame now receipt).1.text⟩ := by
  simp [look, EventStream.read_lagged given now, next]

/-- The client is this viewer, and the events that it was sent are the messages that the viewer has received. -/
structure Told (w : Watch) (v : Viewer) : Prop where
  there : w.house.viewers[w.number]? = some v
  stream : w.stream.stream = v.stream
  tells : Tells v.account.receipts w.sent

theorem Told.look (told : w.Told v) (present : v.account.present = true)
    (visible : ∀ u, (w.look now).house.viewers[w.number]? = some u → ∀ payload ∈ received u.account.receipts,
      Visible payload.toList) : ∃ u, (w.look now).Told u := by
  obtain ⟨there, stream, tells⟩ := told
  have first := House.viewers_receive there present
  have notifier : (w.house.step (.receive w.number)).notifier = w.house.notifier := by
    rw [House.step_receive there present]
  cases given : w.house.notifier.receive v.stream with
  | mk receipt later =>
    have one : v.read w.house.notifier = ⟨{ v.account with receipts := v.account.receipts ++ [receipt] }, later⟩ := by
      rw [Viewer.read, given]
    rw [one] at first
    rw [← stream] at given
    by_cases behind : ∃ missed, receipt = .lagged missed
    · obtain ⟨missed, rfl⟩ := behind
      have second := House.viewers_receive first present
      cases next : w.house.notifier.receive later with
      | mk receipt last =>
        have two : Viewer.read (w.house.step (.receive w.number)).notifier
            ⟨{ v.account with receipts := v.account.receipts ++ [.lagged missed] }, later⟩ =
              ⟨{ v.account with receipts := v.account.receipts ++ [.lagged missed] ++ [receipt] }, last⟩ := by
          rw [Viewer.read, notifier, next]
        rw [two] at second
        rw [look_lagged given next] at visible ⊢
        exact ⟨_, second, EventStream.stream_frame .., (tells.lagged missed).frame (visible _ second) _ now⟩
    · rw [look_prompt given fun missed same => behind ⟨missed, same⟩] at visible ⊢
      exact ⟨_, first, EventStream.stream_frame .., tells.frame (visible _ first) _ now⟩

/-- Whatever happens, the client is told what its viewer receives. -/
theorem Told.step (told : w.Told v) (act : Act)
    (visible : ∀ u, (w.step now act).house.viewers[w.number]? = some u → ∀ payload ∈ received u.account.receipts,
      Visible payload.toList) : ∃ u, (w.step now act).Told u := by
  have other (act : Act) (apart : act ≠ .receive w.number) : ∃ u, Told { w with house := w.house.step act } u := by
    obtain ⟨u, there, stream, receipts, -⟩ := House.viewers_other told.there apart
    exact ⟨u, there, told.stream.trans stream.symm, receipts ▸ told.tells⟩
  cases act with
  | receive i =>
    by_cases mine : i = w.number
    · by_cases present : v.account.present = true
      · have looks : w.step now (.receive i) = w.look now := by
          simp [Watch.step, mine, isThere, told.there, present]
        rw [looks] at visible ⊢
        exact told.look present visible
      · have stays : w.step now (.receive i) = w := by
          simp [Watch.step, mine, isThere, told.there, present]
        rw [stays]
        exact ⟨v, told⟩
    · have passes : w.step now (.receive i) = { w with house := w.house.step (.receive i) } := if_neg mine
      rw [passes]
      exact other _ fun same => mine (Act.receive.inj same)
  | subscribe | publish | leave | close => exact other _ nofun

/-- What happens to a client happens in the house, where the viewer may receive twice in place of once. -/
theorem step_house (w : Watch) (now : Nat) (act : Act) : (w.step now act).number = w.number ∧
    ∃ acts, (w.step now act).house = w.house.run acts ∧
      ∀ user i later, House.published user i (acts ++ later) = House.published user i (act :: later) := by
  cases act with
  | receive i =>
    simp only [Watch.step]
    split
    next mine =>
      subst mine
      split
      · refine ⟨rfl, ?_⟩
        simp only [look]
        split
        · exact ⟨[.receive w.number, .receive w.number], rfl, fun _ _ _ => rfl⟩
        · exact ⟨[.receive w.number], rfl, fun _ _ _ => rfl⟩
      · exact ⟨rfl, [], rfl, fun _ _ _ => rfl⟩
    · exact ⟨rfl, [.receive i], rfl, fun _ _ _ => rfl⟩
  | subscribe | publish | leave | close => exact ⟨rfl, [_], rfl, fun _ _ _ => rfl⟩

theorem run_house (w : Watch) (acts : List (Nat × Act)) : (w.run acts).number = w.number ∧
    ∃ done, (w.run acts).house = w.house.run done ∧
      ∀ user i, House.published user i done = House.published user i (acts.map Prod.snd) := by
  induction acts generalizing w with
  | nil => exact ⟨rfl, [], rfl, fun _ _ => rfl⟩
  | cons act acts ih =>
    obtain ⟨number, first, house, same⟩ := w.step_house act.1 act.2
    obtain ⟨number', later, house', same'⟩ := ih (w.step act.1 act.2)
    refine ⟨number'.trans number, first ++ later, ?_, ?_⟩
    · rw [House.run_append, ← house]
      exact house'
    · intro user i
      have front (acts' : List Act) (act : Act) (equal : House.published user i later = House.published user i acts') :
          House.published user i (act :: later) = House.published user i (act :: acts') := by
        cases act <;> simp only [House.published, equal]
      rw [same, List.map_cons]
      exact front _ _ (same' user i)

theorem told_run {capacity : Nat} {before : List Act} (house : w.house = (House.empty capacity).run before)
    (told : w.Told v) (acts : List (Nat × Act)) : ∃ u, (w.run acts).Told u := by
  induction acts generalizing w v before with
  | nil => exact ⟨v, told⟩
  | cons act acts ih =>
    obtain ⟨-, done, house', -⟩ := w.step_house act.1 act.2
    rw [house, ← House.run_append] at house'
    obtain ⟨u, next⟩ : ∃ u, (w.step act.1 act.2).Told u := by
      refine told.step act.2 fun u there payload member => ?_
      rw [house'] at there
      obtain ⟨posts, same⟩ := House.received_eq there
      rw [same] at member
      obtain ⟨post, -, rfl⟩ := List.mem_map.mp member
      exact visible_wire post
    exact ih house' next

/-- A client that comes is a new viewer, and was sent nothing. -/
theorem told_open {h : House} {user : UserId} (opened : open? h user now = some w) :
    (∃ stream next, h.notifier.subscribe? user = some (stream, next)) ∧ w.house = h.step (.subscribe user) ∧
      w.number = h.viewers.length ∧ ∃ v, w.Told v := by
  unfold open? at opened
  split at opened
  next stream next comes =>
    cases opened
    exact ⟨⟨stream, next, comes⟩, rfl, rfl, ⟨⟨user, true, [], []⟩, stream⟩, by simp [House.step, comes], rfl, .none⟩
  · cases opened

/-- The events that a client was sent are the posts that its viewer has received, some of those published to its user
since it came, in order. -/
theorem events_run {capacity : Nat} {before : List Act} {user : UserId} {now : Nat}
    (opened : open? ((House.empty capacity).run before) user now = some w) (acts : List (Nat × Act)) :
    ∃ (v : Viewer) (posts : List Post), (w.run acts).house.viewers[w.number]? = some v ∧
      received v.account.receipts = posts.map Post.wire ∧
      (posts.map Post.wire).Sublist (House.published user w.number (acts.map Prod.snd)) ∧
      events (w.run acts).sent.toList = posts.map fun post => ⟨"post", post.wire⟩ := by
  obtain ⟨⟨stream, next, comes⟩, begun, number, v, told⟩ := told_open opened
  have house : w.house = (House.empty capacity).run (before ++ [.subscribe user]) := by
    rw [begun, House.run_append]
    rfl
  obtain ⟨u, there, -, tells⟩ := told_run house told acts
  obtain ⟨same, done, house', published⟩ := w.run_house acts
  rw [same] at there
  have whole : (w.run acts).house = (House.empty capacity).run (before ++ .subscribe user :: done) := by
    rw [house', house, ← House.run_append, List.append_assoc]
    rfl
  have held := whole ▸ there
  obtain ⟨posts, received⟩ := House.received_eq held
  have some_ := House.received_sublist comes number.symm held
  rw [received, published] at some_
  refine ⟨u, posts, there, received, some_, ?_⟩
  have all := tells []
  rw [List.append_nil, received, List.map_map] at all
  exact all.trans (List.append_nil _)

end Watch

/-! ### One wire form -/

/-- A post has one wire form everywhere, and it makes one event. -/
structure WireForms : Prop where
  /-- What is cached of a post is its wire form. -/
  cached : ∀ post, FeedEntry.encode post = .ok (.snapshot post) ∧ (FeedEntry.snapshot post).bytes = post.wire.toUTF8
  /-- What is published of a post is its wire form. -/
  published : ∀ (n : Live.Notifier) user post outcome next, n.publish user post = .ok (outcome, next) →
    n.Delivers user post.wire next
  /-- The posts in a reply are the elements of an array, and whoever reads it finds just these. -/
  printed : ∀ posts, Json.IsArray (posts.map element) (postsBody posts).toList ∧
    ∀ es, Json.IsArray es (postsBody posts).toList → (∀ e ∈ es, e.Spaced) → (∀ e ∈ es, Json.IsValue e.value) →
      es = posts.map element
  /-- A request for a feed is refused at once, or its reply prints the posts of the page that it asks for. -/
  replied : ∀ s r, ((∃ reply, reply.Early ∧ getFeed s r = .done reply) ∨ ∃ user window,
      getFeed s r = (s.feedPage user window).bind fun answer => .done (pageReply answer)) ∧
    ∀ page, (pageReply (.ok page)).body = .json (postsBody page.posts)
  visible : ∀ (post : Post), ∀ b ∈ post.wire.toUTF8.data.toList, 0x20 ≤ b
  /-- An event has three lines: its name, the wire form, and an empty line. -/
  framed : ∀ post : Post, eventFrame post.wire = "event: post\ndata: " ++ post.wire ++ "\n\n" ∧
    lines (eventFrame post.wire).toList = ["event: post".toList, "data: ".toList ++ post.wire.toList, []]
  /-- Whatever happens while a client is there, the events that it was sent are the posts that its viewer has received. -/
  watched : ∀ capacity before user now w, Watch.open? ((House.empty capacity).run before) user now = some w → ∀ acts,
    ∃ (v : Viewer) (posts : List Post), (w.run acts).house.viewers[w.number]? = some v ∧
      received v.account.receipts = posts.map Post.wire ∧
      (posts.map Post.wire).Sublist (House.published user w.number (acts.map Prod.snd)) ∧
      events (w.run acts).sent.toList = posts.map fun post => ⟨"post", post.wire⟩
  decoded : ∀ post : Post, FeedEntry.decode ⟨post.wire.toUTF8⟩ = .ok post

theorem wireForms : WireForms where
  cached post := ⟨FeedEntry.encode_eq post, by rw [FeedEntry.snapshot]⟩
  published _ _ _ _ _ given := (Live.Notifier.delivers given).2
  printed posts := ⟨isArray_postsBody posts, fun _ array spaced values =>
    array.unique (isArray_postsBody posts) spaced (spaced_elements posts) values (isValue_elements posts)⟩
  replied s r := ⟨getFeed_cases s r, fun _ => rfl⟩
  visible post := by
    rw [post.toUTF8_wire]
    exact Text.Utf8.visible_encode post.visible_wireChars
  framed post := by
    have all := lines_eventFrame (visible_wire post) []
    rw [List.append_nil] at all
    exact ⟨eventFrame_visible (visible_wire post), all⟩
  watched _ _ _ _ _ opened acts := Watch.events_run opened acts
  decoded post := FeedEntry.decode_snapshot post

end FeedFanout.Http
