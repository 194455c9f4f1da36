import FeedFanout.Http.Query
import FeedFanout.Feed.Error
import FeedFanout.Notice
import FeedFanout.Warm.Error

/-!
Requests and replies, and the reports that replies with an error carry for the log.
-/
namespace FeedFanout.Http

structure Request where
  method : String
  target : Target
  /-- Names in lowercase, in order of arrival. A value may be any bytes. -/
  headers : List (String × ByteArray)
  body : ByteArray

namespace Request

def viewerHeader : String := "x-user-id"

/-- The first value of a header. -/
def header? (r : Request) (name : String) : Option ByteArray := r.headers.lookup name

/-- Visible ASCII characters, spaces and tabs only. -/
def isReadable (text : String) : Bool :=
  text.toList.all fun c => (32 ≤ c.toNat && c.toNat ≤ 126) || c.toNat = 9

/-- The text of a header's value, if it can be read. -/
def readable? (value : ByteArray) : Option String := (String.fromUTF8? value).filter isReadable

theorem readable?_eq_some_iff {value : ByteArray} {text : String} :
    readable? value = some text ↔ value = text.toUTF8 ∧ isReadable text = true := by
  unfold readable?
  rw [Option.filter_eq_some_iff]
  refine and_congr_left fun _ => ?_
  unfold String.fromUTF8?
  constructor
  · intro read
    split at read
    · rw [← Option.some.inj read]
      rfl
    · cases read
  · rintro rfl
    exact dif_pos text.isValidUTF8

@[simp] theorem readable?_toUTF8 {text : String} (readable : isReadable text = true) :
    readable? text.toUTF8 = some text :=
  readable?_eq_some_iff.mpr ⟨rfl, readable⟩

/-- The raw identity that a request gives, empty if it gives none that can be read. -/
def rawViewer (r : Request) : String := ((r.header? viewerHeader).bind readable?).getD ""

end Request

/-- What is known of an error: where it came up, its text and the texts under it. -/
structure Report where
  source : String
  chain : List String
deriving DecidableEq, Repr

inductive Body
  | empty
  | text (value : String)
  | json (value : String)
  /-- The posts published to a viewer from now on. -/
  | events (viewer : UserId) (stream : Live.Stream)
deriving DecidableEq, Repr

structure Reply where
  status : Nat
  body : Body := .empty
  /-- Where a feed was read from. -/
  source : Option Source := none
  /-- The methods that the route has. -/
  allow : Option String := none
  report : Option Report := none
  /-- Only the headers are sent. -/
  headOnly : Bool := false

namespace Reply

def contentType (reply : Reply) : Option String :=
  match reply.body with
  | .empty => none
  | .text _ => some "text/plain; charset=utf-8"
  | .json _ => some "application/json"
  | .events .. => some "text/event-stream"

def cacheControl (reply : Reply) : Option String :=
  match reply.body with
  | .events .. => some "no-cache"
  | _ => none

def isError (reply : Reply) : Bool := 400 ≤ reply.status

/-- A reply with a public text, and a report on its cause. -/
def failed (status : Nat) (text source : String) (chain : List String) : Reply :=
  { status, body := .text text, report := some ⟨source, chain⟩ }

/-- A request that was refused before it reached its handler. -/
def refused (status : Nat) (text : String) : Reply := { status, body := .text text }

/-- The reply to an error of the service. -/
def ofFeedError (e : FeedError) : Reply :=
  let source := "infra::http::feed_error_to_http_error"
  match e with
  | .duplicatePost _ => failed 409 "Post already exists" source e.chain
  | .validation _ => failed 400 "Request could not be processed" source e.chain
  | .storageUnavailable _ | .friendGraphUnavailable .. | .timeout .. =>
    failed 503 "Service temporarily unavailable" source e.chain
  | .partialFanout _ => failed 500 "Post stored but not delivered to every friend" source e.chain
  | .corruptEntry _ => failed 500 "Internal server error" source e.chain

/-- What is logged about a request that was answered with an error. -/
def failure? (request : Request) (reply : Reply) : Option FailedRequest :=
  if reply.isError then
    let report := reply.report.getD ⟨"unknown", []⟩
    some {
      status := reply.status, method := request.method, path := request.target.path
      query := request.target.query.getD "", source := report.source, chain := report.chain
      viewer := request.rawViewer }
  else none

end Reply

end FeedFanout.Http
