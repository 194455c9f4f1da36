import FeedFanout.Fanout.Outcome
import FeedFanout.PostLog

/-!
Why a post was not created, or a feed not read.
-/
namespace FeedFanout

/-- A collaborator whose answer came too late. -/
inductive Dependency
  | postStore
  | friendGraph
  | feedCache
deriving DecidableEq, Repr

/-- A call that is given a limited time. -/
inductive Operation
  | append
  | query
  | friends
  | exists
  | read
deriving DecidableEq, Repr

namespace Operation

def name : Operation → String
  | .append => "post_store.append"
  | .query => "post_store.query_by_friends"
  | .friends => "friend_graph.friends_of"
  | .exists => "feed_cache.exists"
  | .read => "feed_cache.read"

def dependency : Operation → Dependency
  | .append | .query => .postStore
  | .friends => .friendGraph
  | .exists | .read => .feedCache

end Operation

inductive FeedError
  | storageUnavailable (error : StoreError)
  | duplicatePost (post : PostId)
  | friendGraphUnavailable (user : UserId) (error : StoreError)
  | partialFanout (report : Fanout.Partial)
  | timeout (operation : Operation) (limit : Span)
  | corruptEntry (error : CacheError)
  | validation (message : String)

namespace FeedError

def message : FeedError → String
  | .storageUnavailable _ => "post store unavailable"
  | .duplicatePost post => s!"post {post.text} already exists"
  | .friendGraphUnavailable user _ => s!"friend graph unavailable for user {user.text}"
  | .partialFanout _ => "post stored but not delivered to every friend"
  | .timeout operation limit => s!"{operation.name} timed out after {limit.text}"
  | .corruptEntry _ => "feed entry could not be encoded or decoded"
  | .validation message => s!"invalid feed request: {message}"

/-- The errors under an error. -/
def sources : FeedError → List String
  | .storageUnavailable error => error.chain
  | .friendGraphUnavailable _ error => error.chain
  | .partialFanout report => report.chain
  | .corruptEntry error => error.chain
  | .duplicatePost _ | .timeout _ _ | .validation _ => []

def chain (e : FeedError) : List String := e.message :: e.sources

end FeedError

end FeedFanout
