import FeedFanout.Database.Error
import FeedFanout.Live.Notifier
import FeedFanout.PostLog
import FeedFanout.Entry

/-!
The calls that the service makes to its collaborators, each with the type of its reply.
-/
namespace FeedFanout

inductive Call
  /-- To the store of posts. -/
  | append (post : Post)
  | query (user : UserId) (authors : List UserId) (window : Window)
  /-- To the graph of friendships and the directory of users. -/
  | friendsOf (user : UserId)
  | users
  /-- To the cache of feeds. -/
  | exists (user : UserId)
  | read (user : UserId) (offset : Nat) (limit : Option Bound)
  | push (user : UserId) (entry : FeedEntry) (cap : Nat)
  | prepend (user : UserId) (entry : FeedEntry)
  | trim (user : UserId) (cap : Nat)
  | rebuild (user : UserId) (entries : List FeedEntry) (cap : Nat)
  /-- To the notifier. -/
  | publish (user : UserId) (post : Post)
  | subscribe (user : UserId)
  /-- For an identifier that was never given out before. -/
  | mint
  /-- To the database, if there is one. -/
  | ping

namespace Call

abbrev Reply : Call → Type
  | .append _ => Except StoreError Unit
  | .query .. => Except StoreError (List Post)
  | .friendsOf _ => Except StoreError (List UserId)
  | .users => Except StoreError (List UserId)
  | .exists _ => Except CacheError Bool
  | .read .. => Except CacheError (List FeedEntry)
  | .push .. => Except CacheError Unit
  | .prepend .. => Except CacheError Unit
  | .trim .. => Except CacheError Unit
  | .rebuild .. => Except CacheError Unit
  | .publish .. => Except Live.NotifyError Unit
  | .subscribe _ => Option Live.Stream
  | .mint => PostId
  | .ping => Except DatabaseError Unit

end Call

end FeedFanout
