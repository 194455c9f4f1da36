import FeedFanout.Proofs.Friendship
import Mathlib.Data.List.Induction
import Mathlib.Data.List.Sort

/-!
What becomes of the graph of friendships by updates. A user's friends are those with whom a friendship was entered, from
either side (`mem_friendsOf_after`), and known are those who were added or befriended (`mem_users_after`). Both are
listed in ascending order, so that the lists depend on which updates there were, and not on their order and number
(`FriendGraph.settled`).
-/
namespace FeedFanout

namespace IdSet
variable {role : Role}

instance : Std.Irrefl (α := Id role) (· < ·) := ⟨fun a => Nat.lt_irrefl a.number.val⟩

instance : Std.Asymm (α := Id role) (· < ·) := ⟨fun _ _ less => Nat.lt_asymm less⟩

theorem mem_foldl_insert {x : Id role} {xs : List (Id role)} {s : IdSet role} :
    x ∈ xs.foldl insert s ↔ x ∈ xs ∨ x ∈ s := by
  induction xs generalizing s with
  | nil => simp
  | cons y ys ih =>
    rw [List.foldl_cons, ih, mem_insert, List.mem_cons]
    tauto

@[simp] theorem mem_ofList {x : Id role} {xs : List (Id role)} : x ∈ ofList xs ↔ x ∈ xs := by
  simp [ofList, mem_foldl_insert]

/-- Sets with the same elements list them alike. -/
theorem toList_eq {s t : IdSet role} (same : ∀ x, x ∈ s ↔ x ∈ t) : s.toList = t.toList :=
  s.ascending.eq_of_mem_iff t.ascending same

end IdSet

theorem Table.mem_keys_set {α β : Type} [DecidableEq α] (t : Table α β) (a a' : α) (b : β) :
    a' ∈ (t.set a b).keys ↔ a' = a ∨ a' ∈ t.keys := by
  obtain ⟨rows⟩ := t
  simp only [keys, set]
  induction rows with
  | nil => simp [setRows]
  | cons row rows ih =>
    obtain ⟨key, value⟩ := row
    unfold setRows
    split
    · rename_i same
      simp [same]
    · simp only [List.map_cons, List.mem_cons, ih]
      tauto

namespace FriendGraph

theorem mem_users {graph : FriendGraph} {user : UserId} : user ∈ graph.users ↔ user ∈ graph.circles.keys :=
  IdSet.mem_ofList

@[simp] theorem users_empty : empty.users = [] := rfl

@[simp] theorem mem_users_addUser (graph : FriendGraph) (user other : UserId) :
    other ∈ (graph.addUser user).users ↔ other = user ∨ other ∈ graph.users := by
  simp only [mem_users, addUser, Table.mem_keys_set]

theorem mem_users_addFriend (graph : FriendGraph) (a b user : UserId) :
    user ∈ (graph.addFriend a b).users ↔ user = a ∨ user ∈ graph.users := by
  simp only [mem_users, addFriend, Table.mem_keys_set]

theorem mem_users_addFriendship (graph : FriendGraph) (a b user : UserId) :
    user ∈ (graph.addFriendship a b).users ↔ a ≠ b ∧ (user = a ∨ user = b) ∨ user ∈ graph.users := by
  unfold addFriendship
  by_cases same : a = b
  · simp [same]
  · rw [if_neg same, mem_users_addFriend, mem_users_addFriend]
    simp only [ne_eq, same, not_false_eq_true, true_and, or_assoc]
    exact or_left_comm

/-- What is entered in a graph. -/
inductive Update
  | addUser (user : UserId)
  | addFriendship (a b : UserId)
deriving DecidableEq

namespace Update

def apply (graph : FriendGraph) : Update → FriendGraph
  | addUser user => graph.addUser user
  | addFriendship a b => graph.addFriendship a b

/-- The same from the other side. -/
def swapped : Update → Update
  | addUser user => addUser user
  | addFriendship a b => addFriendship b a

end Update

/-- The friendship of two users was entered, from either side. -/
def Entered (updates : List Update) (a b : UserId) : Prop :=
  .addFriendship a b ∈ updates ∨ .addFriendship b a ∈ updates

/-- The graph after updates, one after the other. -/
def after (updates : List Update) : FriendGraph := updates.foldl Update.apply empty

variable {updates : List Update}

theorem Entered.symm {a b : UserId} (entered : Entered updates a b) : Entered updates b a := Or.symm entered

theorem entered_concat {update : Update} {a b : UserId} : Entered (updates ++ [update]) a b ↔
    (update = .addFriendship a b ∨ update = .addFriendship b a) ∨ Entered updates a b := by
  simp only [Entered, List.mem_append, List.mem_singleton, eq_comm (b := update)]
  tauto

theorem after_concat (updates : List Update) (update : Update) :
    after (updates ++ [update]) = update.apply (after updates) := by
  simp [after]

theorem built_after (updates : List Update) : (after updates).Built := by
  induction updates using List.reverseRecOn with
  | nil => exact .empty
  | append_singleton updates update ih =>
    rw [after_concat]
    cases update with
    | addUser user => exact .addUser user ih
    | addFriendship a b => exact .addFriendship a b ih

/-- Friends are those with whom a friendship was entered, unless with oneself. -/
theorem mem_friendsOf_after {user friend : UserId} :
    friend ∈ (after updates).friendsOf user ↔ user ≠ friend ∧ Entered updates user friend := by
  induction updates using List.reverseRecOn with
  | nil => simp [after, Entered]
  | append_singleton updates update ih =>
    rw [after_concat, entered_concat]
    cases update with
    | addUser other => simp [Update.apply, ih]
    | addFriendship a b =>
      rw [Update.apply, mem_friendsOf_addFriendship, ih]
      constructor
      · rintro (⟨apart, ⟨rfl, rfl⟩ | ⟨rfl, rfl⟩⟩ | ⟨apart, entered⟩)
        · exact ⟨apart, .inl (.inl rfl)⟩
        · exact ⟨apart.symm, .inl (.inr rfl)⟩
        · exact ⟨apart, .inr entered⟩
      · rintro ⟨apart, (new | new) | entered⟩
        · cases new
          exact .inl ⟨apart, .inl ⟨rfl, rfl⟩⟩
        · cases new
          exact .inl ⟨apart.symm, .inr ⟨rfl, rfl⟩⟩
        · exact .inr ⟨apart, entered⟩

/-- Known are those who were added, and those who got a friend. -/
theorem mem_users_after {user : UserId} : user ∈ (after updates).users ↔
    .addUser user ∈ updates ∨ ∃ other, user ≠ other ∧ Entered updates user other := by
  induction updates using List.reverseRecOn with
  | nil => simp [after, Entered]
  | append_singleton updates update ih =>
    rw [after_concat]
    simp only [entered_concat, List.mem_append, List.mem_singleton]
    cases update with
    | addUser other =>
      simp only [Update.apply, mem_users_addUser, ih, Update.addUser.injEq, reduceCtorEq, or_false, false_or]
      tauto
    | addFriendship a b =>
      rw [Update.apply, mem_users_addFriendship, ih]
      constructor
      · rintro (⟨apart, rfl | rfl⟩ | added | ⟨other, apart, entered⟩)
        · exact .inr ⟨b, apart, .inl (.inl rfl)⟩
        · exact .inr ⟨a, apart.symm, .inl (.inr rfl)⟩
        · exact .inl (.inl added)
        · exact .inr ⟨other, apart, .inr entered⟩
      · rintro ((added | new) | ⟨other, apart, (new | new) | entered⟩)
        · exact .inr (.inl added)
        · cases new
        · cases new
          exact .inl ⟨apart, .inl rfl⟩
        · cases new
          exact .inl ⟨apart.symm, .inr rfl⟩
        · exact .inr (.inr ⟨other, apart, entered⟩)

/-- The same updates, up to their order, their number and the sides from which friendships are entered. -/
def Alike (updates others : List Update) : Prop :=
  ∀ update, update ∈ updates ∨ update.swapped ∈ updates ↔ update ∈ others ∨ update.swapped ∈ others

theorem Alike.entered {others : List Update} (alike : Alike updates others) (a b : UserId) :
    Entered updates a b ↔ Entered others a b := alike (.addFriendship a b)

theorem Alike.added {others : List Update} (alike : Alike updates others) (user : UserId) :
    .addUser user ∈ updates ↔ .addUser user ∈ others := by
  simpa [Update.swapped] using alike (.addUser user)

theorem Alike.friendsOf_eq {others : List Update} (alike : Alike updates others) (user : UserId) :
    (after updates).friendsOf user = (after others).friendsOf user := by
  refine IdSet.toList_eq fun friend => ?_
  change friend ∈ (after updates).friendsOf user ↔ friend ∈ (after others).friendsOf user
  rw [mem_friendsOf_after, mem_friendsOf_after, alike.entered]

theorem Alike.users_eq {others : List Update} (alike : Alike updates others) :
    (after updates).users = (after others).users := by
  refine IdSet.toList_eq fun user => ?_
  change user ∈ (after updates).users ↔ user ∈ (after others).users
  simp only [mem_users_after, alike.added, alike.entered]

/-- What there is to say of a graph after any updates. Two users are friends exactly if they are different and their
friendship was entered from either side, so friendship is mutual and nobody is their own friend. Known is exactly who
was added or got a friend, the friends of known users among them. Friends and users are listed in ascending order, and
updates that are alike lead to the same lists. -/
theorem settled (updates : List Update) :
    (∀ a b, b ∈ (after updates).friendsOf a ↔
      a ≠ b ∧ (.addFriendship a b ∈ updates ∨ .addFriendship b a ∈ updates)) ∧
    (∀ a b, a ∈ (after updates).friendsOf b ↔ b ∈ (after updates).friendsOf a) ∧
    (∀ user, user ∉ (after updates).friendsOf user) ∧
    (∀ user, ((after updates).friendsOf user).Pairwise (· < ·)) ∧
    (after updates).users.Pairwise (· < ·) ∧
    (∀ user, user ∈ (after updates).users ↔ .addUser user ∈ updates ∨
      ∃ other, user ≠ other ∧ (.addFriendship user other ∈ updates ∨ .addFriendship other user ∈ updates)) ∧
    (∀ user friend, friend ∈ (after updates).friendsOf user → friend ∈ (after updates).users) ∧
    ∀ others, Alike updates others →
      (∀ user, (after updates).friendsOf user = (after others).friendsOf user) ∧
      (after updates).users = (after others).users := by
  have built := built_after updates
  refine ⟨fun a b => mem_friendsOf_after, fun a b => built.symm, built.irrefl, fun user => (circle _ user).ascending,
    (IdSet.ofList _).ascending, fun user => mem_users_after, ?_, ?_⟩
  · intro user friend befriended
    obtain ⟨apart, entered⟩ := mem_friendsOf_after.mp befriended
    exact mem_users_after.mpr (.inr ⟨user, apart.symm, entered.symm⟩)
  · intro others alike
    exact ⟨alike.friendsOf_eq, alike.users_eq⟩

/-- A friendship entered from both sides and one with oneself, and the same in another order. -/
theorem settled_twice :
    let updates : List Update :=
      [.addFriendship (.ofNat 2) (.ofNat 1), .addUser (.ofNat 3), .addFriendship (.ofNat 4) (.ofNat 4),
        .addFriendship (.ofNat 1) (.ofNat 2)]
    let others : List Update :=
      [.addFriendship (.ofNat 4) (.ofNat 4), .addFriendship (.ofNat 1) (.ofNat 2), .addUser (.ofNat 3)]
    Alike updates others ∧ (after others).users = [.ofNat 1, .ofNat 2, .ofNat 3] ∧
      (after updates).friendsOf (.ofNat 1) = [.ofNat 2] ∧ .ofNat 2 ∈ (after updates).users := by
  intro updates others
  have alike : Alike updates others := by
    intro update
    cases update with
    | addUser user => simp [updates, others, Update.swapped]
    | addFriendship a b =>
      simp only [updates, others, Update.swapped, List.mem_cons, Update.addFriendship.injEq, reduceCtorEq,
        List.not_mem_nil]
      tauto
  obtain ⟨friends, -, -, -, -, -, closed, same⟩ := settled updates
  have users : (after updates).users = [.ofNat 1, .ofNat 2, .ofNat 3] := by decide
  have list : (after others).friendsOf (.ofNat 1) = [.ofNat 2] := by decide
  have befriended : .ofNat 2 ∈ (after updates).friendsOf (.ofNat 1) :=
    (friends _ _).mpr ⟨by decide, .inr (by decide)⟩
  exact ⟨alike, (same others alike).2 ▸ users, ((same others alike).1 _).trans list, closed _ _ befriended⟩

end FriendGraph
end FeedFanout
