import FeedFanout.Feed.Error
import FeedFanout.Warm.Error

/-!
What the service tells while it works: events for an observer, and remarks for the log.
-/
namespace FeedFanout

/-- Where a feed was read from. -/
inductive Source
  | cache
  | store
deriving DecidableEq, Repr

def Source.name : Source → String
  | .cache => "cache"
  | .store => "store"

/-- What an observer hears. -/
inductive Event
  | stored (post : PostId)
  | delivered (post : PostId) (friend : UserId)
  | failed (post : PostId) (friend : UserId) (step : Fanout.Step)
  /-- Numbers of friends reached and skipped. -/
  | finished (post : PostId) (reached skipped : Nat)
  | served (user : UserId) (source : Source) (entries : Nat)
  /-- The cache failed on a read. -/
  | degraded (user : UserId)
deriving DecidableEq, Repr

def Event.text : Event → String
  | .stored post => s!"stored {post.text}"
  | .delivered post friend => s!"delivered {post.text} {friend.text}"
  | .failed post friend step => s!"failed {post.text} {friend.text} {step.name}"
  | .finished post reached skipped => s!"finished {post.text} {reached} {skipped}"
  | .served user source entries => s!"served {user.text} {source.name} {entries}"
  | .degraded user => s!"degraded {user.text}"

/-- A request that was answered with an error. -/
structure FailedRequest where
  status : Nat
  method : String
  path : String
  query : String
  source : String
  /-- Texts of the error and of all errors under it. -/
  chain : List String
  viewer : String
deriving DecidableEq, Repr

/-- What goes to the log. -/
inductive Remark
  | fanoutComplete (post : PostId) (delivered : Nat)
  | fanoutIncomplete (post : PostId) (delivered failed skipped : Nat)
  | friendMissed (post : PostId) (failure : Fanout.Failure)
  | cacheUnavailable (user : UserId) (reason : String)
  | postStored (post : PostId)
  | fanoutFinished (post : PostId) (delivered skipped : Nat)
  | feedServed (user : UserId) (source : Source) (entries : Nat)
  | noViewer (user : UserId) (post : PostId)
  | topicPruned (user : UserId) (post : PostId)
  | warmStarted
  | userNotWarmed (user : UserId) (error : WarmError)
  | warmFinished (report : WarmReport)
  | periodicWarmFailed (error : WarmError)
  | viewerConnected (user : UserId)
  | viewerLagged (user : UserId) (missed : Nat)
  | requestFailed (request : FailedRequest)

inductive Notice
  | event (event : Event)
  | remark (remark : Remark)

end FeedFanout
