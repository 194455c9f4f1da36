import FeedFanout.Call
import FeedFanout.FeedCache
import FeedFanout.FriendGraph
import FeedFanout.Notice

/-!
The collaborators in memory, and what each call does to them.
-/
namespace FeedFanout

structure World where
  log : PostLog
  graph : FriendGraph
  cache : FeedCache
  notifier : Live.Notifier
  /-- The identifiers that new posts get, in order. -/
  supply : Nat → PostId
  /-- How many of them are in use. -/
  minted : Nat

/-- A reply, what has become of the world, and what is told about it. -/
structure Answer (call : Call) where
  reply : call.Reply
  world : World
  remarks : List Remark

namespace World

/-- Empty stores, and a notifier of some capacity. -/
def empty (channelCapacity : Nat) (supply : Nat → PostId) : World :=
  ⟨.empty, .empty, .empty, .make channelCapacity, supply, 0⟩

/-- What a call does. -/
def perform (w : World) : (call : Call) → Answer call
  | .append post =>
    match w.log.append post with
    | .ok log => ⟨.ok (), { w with log }, []⟩
    | .error e => ⟨.error e, w, []⟩
  | .query _ authors window => ⟨.ok (w.log.query authors window), w, []⟩
  | .friendsOf user => ⟨.ok (w.graph.friendsOf user), w, []⟩
  | .users => ⟨.ok w.graph.users, w, []⟩
  | .exists user => ⟨.ok (w.cache.has user), w, []⟩
  | .read user offset limit => ⟨.ok (w.cache.read user offset limit), w, []⟩
  | .push user entry cap => ⟨.ok (), { w with cache := w.cache.push user entry cap }, []⟩
  | .prepend user entry => ⟨.ok (), { w with cache := w.cache.prepend user entry }, []⟩
  | .trim user cap => ⟨.ok (), { w with cache := w.cache.trim user cap }, []⟩
  | .rebuild user entries cap => ⟨.ok (), { w with cache := w.cache.rebuild user entries cap }, []⟩
  | .publish user post =>
    match w.notifier.publish user post with
    | .error e => ⟨.error e, w, []⟩
    | .ok (.sent, notifier) => ⟨.ok (), { w with notifier }, []⟩
    | .ok (.dropped, notifier) => ⟨.ok (), { w with notifier }, [.noViewer user post.id]⟩
    | .ok (.pruned, notifier) => ⟨.ok (), { w with notifier }, [.topicPruned user post.id]⟩
  | .subscribe user =>
    match w.notifier.subscribe? user with
    | some (stream, notifier) => ⟨some stream, { w with notifier }, []⟩
    | none => ⟨none, w, []⟩
  | .mint => ⟨w.supply w.minted, { w with minted := w.minted + 1 }, []⟩
  | .ping => ⟨.ok (), w, []⟩

end World

end FeedFanout
