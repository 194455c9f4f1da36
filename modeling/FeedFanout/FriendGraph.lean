import FeedFanout.IdSet
import FeedFanout.Table

/-!
The graph of friendships: each known user with the set of their friends. A friendship is entered on both sides, and
nobody becomes their own friend.
-/
namespace FeedFanout

structure FriendGraph where
  circles : Table UserId (IdSet .user)

namespace FriendGraph

def empty : FriendGraph := ⟨.empty⟩

/-- Friends of a user; nobody's if the user is not known. -/
def circle (graph : FriendGraph) (user : UserId) : IdSet .user := (graph.circles.get? user).getD .empty

/-- Makes a user known. -/
def addUser (graph : FriendGraph) (user : UserId) : FriendGraph := ⟨graph.circles.set user (graph.circle user)⟩

/-- Enters `b` among the friends of `a` alone. -/
def addFriend (graph : FriendGraph) (a b : UserId) : FriendGraph :=
  ⟨graph.circles.set a ((graph.circle a).insert b)⟩

def addFriendship (graph : FriendGraph) (a b : UserId) : FriendGraph :=
  if a = b then graph else (graph.addFriend a b).addFriend b a

/-- Friends in ascending order. -/
def friendsOf (graph : FriendGraph) (user : UserId) : List UserId := (graph.circle user).toList

/-- All known users in ascending order. -/
def users (graph : FriendGraph) : List UserId := (IdSet.ofList graph.circles.keys).toList

end FriendGraph

end FeedFanout
