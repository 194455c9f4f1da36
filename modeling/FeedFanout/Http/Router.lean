import FeedFanout.Http.Handler

/-!
Routes: paths and the methods that they answer. A failed request is logged once, behind whatever its handler told.
-/
namespace FeedFanout.Http

inductive Route
  | feed
  | create
  | posted
  | warm
  | health
deriving DecidableEq, Repr

namespace Route

def all : List Route := [feed, create, posted, warm, health]

def path : Route → String
  | feed => "/post/feed"
  | create => "/post/create"
  | posted => "/post/feed/posted"
  | warm => "/_admin/feed-cache/warm"
  | health => "/_health/db"

/-- Changes something. -/
def isPost : Route → Bool
  | create | warm => true
  | feed | posted | health => false

/-- The methods of a route. One that is read can also be asked for its headers alone. -/
def methods (route : Route) : List String := if route.isPost then ["POST"] else ["GET", "HEAD"]

def ofPath? (path : String) : Option Route := all.find? (·.path = path)

def handle (route : Route) (s : Service) (w : Warmer) (r : Request) : Plan Reply :=
  match route with
  | feed => .ofTask (getFeed s r)
  | create => .ofTask (createPost s r)
  | posted => .ofTask (watch r)
  | warm => Http.warm w
  | health => .ofTask Http.health

end Route

/-- The reply to a request, before it is logged. -/
def answer (s : Service) (w : Warmer) (r : Request) : Plan Reply :=
  match Route.ofPath? r.target.path with
  | none => .ofTask (return { status := 404 })
  | some route =>
    if r.method ∈ route.methods then route.handle s w r
    else .ofTask (return { status := 405, allow := some (",".intercalate route.methods) })

/-- Logs a reply if it is an error. -/
def logReply (r : Request) (reply : Reply) : Task Reply :=
  match reply.failure? r with
  | some failure => do
    Task.remark (.requestFailed failure)
    return reply
  | none => return reply

/-- Answers a request. -/
def serve (s : Service) (w : Warmer) (r : Request) : Plan Reply :=
  (answer s w r).andThen fun reply => do
    let reply ← logReply r reply
    return { reply with headOnly := r.method = "HEAD" }

end FeedFanout.Http
