import FeedFanout.Entry
import FeedFanout.Live.Notifier
import FeedFanout.Span
import FeedFanout.Text.Blank

/-!
What comes of pushing a post to friends: who was reached, who was not and why, and who was not tried.
-/
namespace FeedFanout

/-- What a fanout does about a friend that it cannot reach. -/
inductive Policy
  /-- The friends after them are skipped. -/
  | failFast
  /-- Every friend is tried. -/
  | bestEffort
deriving DecidableEq, Repr

namespace Policy

def name : Policy → String
  | .failFast => "fail_fast"
  | .bestEffort => "best_effort"

/-- Reads a policy's name with blanks around it; the other text is the reason for refusing it. -/
def parse (text : String) : Except String Policy :=
  let name := Text.trim text
  if name = Policy.failFast.name then .ok .failFast
  else if name = Policy.bestEffort.name then .ok .bestEffort
  else .error s!"expected `fail_fast` or `best_effort`, got `{name}`"

end Policy

namespace Fanout

/-- The two things done for a friend, in this order. -/
inductive Step
  | cacheWrite
  | notify
deriving DecidableEq, Repr

def Step.name : Step → String
  | .cacheWrite => "cache_write"
  | .notify => "notify"

/-- Why a step failed. -/
inductive Cause
  | cache (error : CacheError)
  | notify (error : Live.NotifyError)
  | timeout (limit : Span)

namespace Cause

def message : Cause → String
  | .cache error => error.message
  | .notify error => error.message
  | .timeout limit => s!"timed out after {limit.text}"

def chain : Cause → List String
  | .cache error => error.chain
  | .notify error => error.chain
  | cause@(.timeout _) => [cause.message]

end Cause

structure Failure where
  friend : UserId
  step : Step
  cause : Cause

namespace Failure

def message (f : Failure) : String := s!"friend {f.friend.text} failed at {f.step.name}: {f.cause.message}"

def chain (f : Failure) : List String := f.message :: f.cause.chain

end Failure

/-- A fanout that did not reach every friend. -/
structure Partial where
  post : PostId
  delivered : List UserId
  failures : List Failure
  skipped : List UserId

namespace Partial

def message (p : Partial) : String :=
  s!"fanout of post {p.post.text} incomplete: {p.delivered.length} delivered, " ++
    s!"{p.failures.length} failed, {p.skipped.length} skipped"

/-- Only the first failure lies under a partial fanout. -/
def chain (p : Partial) : List String := p.message :: (p.failures.head?.map Failure.chain).getD []

end Partial

inductive Outcome
  | success (delivered : List UserId)
  | incomplete (report : Partial)

end Fanout

end FeedFanout
