import FeedFanout.Live.Channel
import FeedFanout.Post
import FeedFanout.Table

/-!
The notifier: a topic per user with viewers, every topic a channel of wire forms. Publishing to a user without a topic
drops the message; publishing to a topic that all viewers have left removes it.
-/
namespace FeedFanout.Live

/-- Why a post could not be published. -/
inductive NotifyError
  | transport (message : String)
  | codec (error : Post.CodecError)

namespace NotifyError

def message : NotifyError → String
  | .transport message => s!"notification transport unavailable: {message}"
  | .codec error => s!"failed to encode notification: {Post.CodecError.message error}"

def chain (e : NotifyError) : List String :=
  match e with
  | .transport _ => [e.message]
  | .codec error => [e.message, Post.CodecError.message error]

end NotifyError

/-- The reading end of a topic. -/
inductive Stream
  | finished
  /-- On the channel with this number, at this position. -/
  | attached (channel position : Nat)
deriving DecidableEq, Repr

structure Notifier where
  capacity : Nat
  isClosed : Bool
  /-- The number of each user's channel. -/
  topics : Table UserId Nat
  /-- All channels ever opened. -/
  channels : List (Channel String)

/-- What became of a message. -/
inductive Published
  | sent
  /-- The user had no topic. -/
  | dropped
  /-- The user's viewers were gone; the topic was removed. -/
  | pruned
deriving DecidableEq, Repr

namespace Notifier

def defaultCapacity : Nat := 64

def make (capacity : Nat) : Notifier := ⟨max capacity 1, false, .empty, []⟩

/-- A new viewer of a user. There is no stream if a channel of the configured capacity cannot be opened. -/
def subscribe? (n : Notifier) (user : UserId) : Option (Stream × Notifier) :=
  if n.isClosed then some (.finished, n)
  else
    match n.topics.get? user with
    | some number =>
      match n.channels[number]? with
      | some channel =>
        let (channel, position) := channel.attach
        some (.attached number position, { n with channels := n.channels.set number channel })
      | none => none
    | none =>
      match Channel.open? n.capacity with
      | some channel =>
        let (channel, position) := channel.attach
        let number := n.channels.length
        some (.attached number position,
          { n with topics := n.topics.set user number, channels := n.channels ++ [channel] })
      | none => none

/-- A viewer leaves. -/
def unsubscribe (n : Notifier) : Stream → Notifier
  | .finished => n
  | .attached number _ => { n with channels := n.channels.modify number Channel.detach }

def receive (n : Notifier) : Stream → Receipt String × Stream
  | .finished => (.closed, .finished)
  | .attached number position =>
    match n.channels[number]? with
    | some channel =>
      let (receipt, position) := channel.receive position
      (receipt, .attached number position)
    | none => (.closed, .finished)

def publish (n : Notifier) (user : UserId) (post : Post) : Except NotifyError (Published × Notifier) :=
  if n.isClosed then .error (.transport "notifier is closed")
  else match post.encode with
  | .error e => .error (.codec e)
  | .ok text =>
    match n.topics.get? user with
    | none => .ok (.dropped, n)
    | some number =>
      match (n.channels[number]?).bind (·.send? text) with
      | some channel => .ok (.sent, { n with channels := n.channels.set number channel })
      | none => .ok (.pruned, { n with topics := n.topics.erase user })

theorem publish_eq (n : Notifier) (user : UserId) (post : Post) :
    n.publish user post =
      if n.isClosed then .error (.transport "notifier is closed")
      else match n.topics.get? user with
        | none => .ok (.dropped, n)
        | some number =>
          match (n.channels[number]?).bind (·.send? post.wire) with
          | some channel => .ok (.sent, { n with channels := n.channels.set number channel })
          | none => .ok (.pruned, { n with topics := n.topics.erase user }) := by
  rw [publish, Post.encode_eq]

def topicCount (n : Notifier) : Nat := n.topics.size

/-- Disconnects every viewer and refuses all later messages. -/
def close (n : Notifier) : Notifier :=
  { n with
    isClosed := true
    topics := .empty
    channels := n.channels.map Channel.close }

end Notifier

end FeedFanout.Live
