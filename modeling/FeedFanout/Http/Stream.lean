import FeedFanout.Live.Notifier
import FeedFanout.Text.Split

/-!
Event streams: the posts published to a viewer as server-sent events. A frame is an event name, the data and an empty
line; a comment keeps a silent stream alive.
-/
namespace FeedFanout.Http

/-- Data, with a line of its own for each line of the text. -/
def dataLines (data : String) : String :=
  String.join ((Text.split (· = '\n') data.toList).map fun line => "data: " ++ String.ofList line ++ "\n")

/-- One post as an event. -/
def eventFrame (data : String) : String := "event: post\n" ++ dataLines data ++ "\n"

def keepAliveFrame : String := ":\n\n"

/-- Milliseconds of silence before a stream is kept alive. -/
def keepAliveAfter : Nat := 15000

structure EventStream where
  viewer : UserId
  stream : Live.Stream
  /-- When the stream was opened or last had a frame, in milliseconds. -/
  since : Nat

/-- What one read of a stream gives. -/
inductive Frame
  | data (text : String)
  | pending
  | ended
deriving DecidableEq, Repr

namespace EventStream

/-- What a stream makes of a receipt. Silence and losses give no event. -/
def frame (es : EventStream) (now : Nat) : Live.Receipt String → Frame × EventStream
  | .message text => (.data (eventFrame text), { es with since := now })
  | .closed => (.ended, es)
  | .empty | .lagged _ =>
    if es.since + keepAliveAfter ≤ now then (.data keepAliveFrame, { es with since := now }) else (.pending, es)

/-- One read of a stream, and how many messages the viewer missed before it. -/
def read (es : EventStream) (notifier : Live.Notifier) (now : Nat) : Frame × EventStream × Option Nat :=
  let (receipt, stream) := notifier.receive es.stream
  let es := { es with stream }
  match receipt with
  | .lagged missed =>
    let (receipt, stream) := notifier.receive es.stream
    let (frame, es) := { es with stream }.frame now receipt
    (frame, es, some missed)
  | receipt =>
    let (frame, es) := es.frame now receipt
    (frame, es, none)

end EventStream

end FeedFanout.Http
