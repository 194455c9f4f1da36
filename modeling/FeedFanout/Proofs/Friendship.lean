import FeedFanout.FriendGraph

/-!
Friendships. In a graph that came of making users known and friends (`FriendGraph.Built`), friendship is symmetric
(`Built.symm`), nobody is their own friend (`Built.irrefl`), and nobody is listed twice (`nodup_friendsOf`).
-/
namespace FeedFanout

theorem IdSet.nodup_toList {role : Role} (s : IdSet role) : s.toList.Nodup :=
  s.ascending.imp fun {a b} less same => by subst same; exact Nat.lt_irrefl a.number.val less

namespace FriendGraph

/-- The graphs that can come about. -/
inductive Built : FriendGraph → Prop
  | empty : Built .empty
  | addUser {graph : FriendGraph} (user : UserId) (built : Built graph) : Built (graph.addUser user)
  | addFriendship {graph : FriendGraph} (a b : UserId) (built : Built graph) : Built (graph.addFriendship a b)

theorem nodup_friendsOf (graph : FriendGraph) (user : UserId) : (graph.friendsOf user).Nodup :=
  (graph.circle user).nodup_toList

@[simp] theorem friendsOf_empty (user : UserId) : empty.friendsOf user = [] := rfl

@[simp] theorem friendsOf_addUser (graph : FriendGraph) (user other : UserId) :
    (graph.addUser user).friendsOf other = graph.friendsOf other := by
  by_cases same : other = user
  · subst same; simp [friendsOf, circle, addUser]
  · simp [friendsOf, circle, addUser, Table.get?_set_of_ne _ _ same]

theorem mem_friendsOf_addFriend (graph : FriendGraph) (a b user friend : UserId) :
    friend ∈ (graph.addFriend a b).friendsOf user ↔ user = a ∧ friend = b ∨ friend ∈ graph.friendsOf user := by
  simp only [friendsOf, ← IdSet.mem_def, circle, addFriend, Table.get?_set]
  by_cases same : user = a
  · subst same; simp
  · simp [same]

theorem mem_friendsOf_addFriendship (graph : FriendGraph) (a b user friend : UserId) :
    friend ∈ (graph.addFriendship a b).friendsOf user ↔
      a ≠ b ∧ (user = a ∧ friend = b ∨ user = b ∧ friend = a) ∨ friend ∈ graph.friendsOf user := by
  unfold addFriendship
  by_cases same : a = b
  · simp [same]
  · rw [if_neg same, mem_friendsOf_addFriend, mem_friendsOf_addFriend]
    simp only [ne_eq, same, not_false_eq_true, true_and, or_assoc]
    exact or_left_comm

theorem Built.symm {graph : FriendGraph} (built : graph.Built) {a b : UserId} :
    a ∈ graph.friendsOf b ↔ b ∈ graph.friendsOf a := by
  induction built with
  | empty => simp
  | addUser user built ih => simpa using ih
  | addFriendship c d built ih =>
    rw [mem_friendsOf_addFriendship, mem_friendsOf_addFriendship, ih]
    have swapped : b = c ∧ a = d ∨ b = d ∧ a = c ↔ a = c ∧ b = d ∨ a = d ∧ b = c := by
      rw [or_comm, and_comm, @and_comm (b = c)]
    rw [swapped]

theorem Built.irrefl {graph : FriendGraph} (built : graph.Built) (user : UserId) : user ∉ graph.friendsOf user := by
  induction built with
  | empty => simp
  | addUser other built ih => simpa using ih
  | addFriendship a b built ih =>
    rw [mem_friendsOf_addFriendship]
    rintro (⟨apart, ⟨rfl, rfl⟩ | ⟨rfl, rfl⟩⟩ | older)
    · exact apart rfl
    · exact apart rfl
    · exact ih older

end FriendGraph
end FeedFanout
