import FeedFanout.Proofs.Faults

/-!
Traces. What calls met without faults have made of the store and of a feed: the store holds the posts appended
(`World.Plays.log_posts`), and a feed that was not rebuilt what was pushed into it (`World.Plays.feed`).
-/
namespace FeedFanout

/-- The posts stored, newest first. -/
def storedIn (trace : List (Nat × Made)) : List Post := (trace.filterMap (·.2.stored?)).reverse

/-- The entries pushed into a user's feed, newest first. -/
def pushedIn (user : UserId) (trace : List (Nat × Made)) : List FeedEntry :=
  (trace.filterMap (·.2.pushed? user)).reverse

theorem storedIn_append (first second : List (Nat × Made)) :
    storedIn (first ++ second) = storedIn second ++ storedIn first := by
  simp [storedIn]

theorem pushedIn_append (user : UserId) (first second : List (Nat × Made)) :
    pushedIn user (first ++ second) = pushedIn user second ++ pushedIn user first := by
  simp [pushedIn]

theorem pushedIn_cons (user : UserId) (step : Nat × Made) (trace : List (Nat × Made)) :
    pushedIn user (step :: trace) = pushedIn user trace ++ (step.2.pushed? user).toList := by
  cases pushed : step.2.pushed? user <;> simp [pushedIn, pushed]

theorem appendedIn_map (trace : List (Nat × Made)) : appendedIn (trace.map (·.2)) = storedIn trace := by
  rw [appendedIn, storedIn, List.filterMap_map]
  rfl

namespace World
variable {w w' : World} {trace : List (Nat × Made)}

/-- Without faults a feed accepts whatever is pushed into it. -/
theorem Serves.accepted? {made : Made} (serves : Serves w made w') (user : UserId) :
    made.accepted? user = made.pushed? user := by
  obtain ⟨_, call⟩ := serves
  cases call with
  | push => rfl
  | _ => exact ite_self none

namespace Plays

theorem accepted (plays : Plays Serves w (trace.map (·.2)) w') (user : UserId) :
    acceptedIn user (trace.map (·.2)) = pushedIn user trace := by
  induction trace generalizing w with
  | nil => rfl
  | cons step trace ih =>
    obtain _ | ⟨serves, later⟩ := plays
    rw [List.map_cons, acceptedIn_cons, pushedIn_cons, serves.accepted?, ih later]

theorem log_posts (plays : Plays Serves w (trace.map (·.2)) w') : w'.log.posts = storedIn trace ++ w.log.posts := by
  rw [(plays.mono Serves.falters).posts, appendedIn_map]

theorem feed (plays : Plays Serves w (trace.map (·.2)) w') {cap : Nat} (plain : ∀ step ∈ trace, step.2.call.Plain cap)
    {user : UserId} (kept : ∀ step ∈ trace, ¬step.2.Rebuilds user) (small : (w.cache.feed user).length ≤ cap) :
    w'.cache.feed user = (pushedIn user trace ++ w.cache.feed user).take cap := by
  have held := (plays.mono Serves.falters).feed? (List.forall_mem_map.mpr plain) (List.forall_mem_map.mpr kept)
  rw [plays.accepted] at held
  rw [FeedCache.feed, held]
  by_cases nothing : pushedIn user trace = []
  · rw [if_pos nothing, nothing, List.nil_append]
    exact (List.take_of_length_le small).symm
  · rw [if_neg nothing]
    rfl

end Plays
end World
end FeedFanout
