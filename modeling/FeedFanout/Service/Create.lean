import FeedFanout.Service.Basic

/-!
Creating a post: it is stored, and then pushed to each friend of its author in order, first into the friend's cached
feed and then to the friend's viewers. Nothing is undone when a later call fails.
-/
namespace FeedFanout.Service

/-- A push into one friend's feed and to their viewers; the answer is what failed. -/
def deliver (s : Service) (post : Post) (entry : FeedEntry) (friend : UserId) : Task (Option Fanout.Failure) := do
  match ← Task.callWithin s.limit (.push friend entry s.capacity) with
  | none => return some ⟨friend, .cacheWrite, .timeout s.limit⟩
  | some (.error e) => return some ⟨friend, .cacheWrite, .cache e⟩
  | some (.ok ()) =>
    match ← Task.callWithin s.limit (.publish friend post) with
    | none => return some ⟨friend, .notify, .timeout s.limit⟩
    | some (.error e) => return some ⟨friend, .notify, .notify e⟩
    | some (.ok ()) => return none

/-- How far a fanout got. -/
structure Reach where
  delivered : List UserId
  failures : List Fanout.Failure
  skipped : List UserId

/-- Pushes to each target in order. -/
def reach (s : Service) (post : Post) (entry : FeedEntry) : List UserId → Task Reach
  | [] => return ⟨[], [], []⟩
  | friend :: rest => do
    match ← s.deliver post entry friend with
    | none =>
      Task.event (.delivered post.id friend)
      let later ← s.reach post entry rest
      return { later with delivered := friend :: later.delivered }
    | some failure =>
      Task.event (.failed post.id friend failure.step)
      Task.remark (.friendMissed post.id failure)
      match s.policy with
      | .failFast => return ⟨[], [failure], rest⟩
      | .bestEffort =>
        let later ← s.reach post entry rest
        return { later with failures := failure :: later.failures }

/-- The friends that a post is pushed to: never its author. -/
def targets (post : Post) (friends : List UserId) : List UserId := friends.filter (· ≠ post.author)

def Reach.outcome (r : Reach) (post : Post) : Fanout.Outcome :=
  if r.failures.isEmpty then .success r.delivered else .incomplete ⟨post.id, r.delivered, r.failures, r.skipped⟩

/-- Pushes a copy of a post to the friends given. -/
def fanout (s : Service) (post : Post) (friends : List UserId) : Task (Except FeedError Fanout.Outcome) :=
  match FeedEntry.encode post with
  | .error e => return .error (.corruptEntry e)
  | .ok entry => do
    let reach ← s.reach post entry (targets post friends)
    Task.event (.finished post.id reach.delivered.length reach.skipped.length)
    return .ok (reach.outcome post)

theorem fanout_eq (s : Service) (post : Post) (friends : List UserId) : s.fanout post friends = do
    let reach ← s.reach post (.snapshot post) (targets post friends)
    Task.event (.finished post.id reach.delivered.length reach.skipped.length)
    return .ok (reach.outcome post) := by
  rw [fanout, FeedEntry.encode_eq]

def mismatch (author : UserId) (post : Post) : FeedError :=
  .validation s!"post {post.id.text} is authored by {post.author.text}, not {author.text}"

/-- What the store's refusal of a post means. -/
def refused (post : Post) : StoreError → FeedError
  | .duplicate _ => .duplicatePost post.id
  | e => .storageUnavailable e

/-- The fanout of a post that has been stored. -/
def spread (s : Service) (author : UserId) (post : Post) : Task (Except FeedError PostId) := do
  match ← s.friendsOf author with
  | .error e => return .error e
  | .ok friends =>
    match ← s.fanout post friends with
    | .error e => return .error e
    | .ok (.success delivered) =>
      Task.remark (.fanoutComplete post.id delivered.length)
      return .ok post.id
    | .ok (.incomplete report) =>
      Task.remark (.fanoutIncomplete post.id report.delivered.length report.failures.length report.skipped.length)
      return .error (.partialFanout report)

/-- Stores a post on behalf of its author and pushes it to the author's friends. -/
def createPost (s : Service) (author : UserId) (post : Post) : Task (Except FeedError PostId) :=
  if post.author ≠ author then return .error (mismatch author post)
  else do
    match ← s.within .append (.append post) with
    | .error e => return .error e
    | .ok (.error e) => return .error (refused post e)
    | .ok (.ok ()) =>
      Task.event (.stored post.id)
      s.spread author post

end FeedFanout.Service
