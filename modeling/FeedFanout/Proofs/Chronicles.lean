import FeedFanout.Proofs.Posting
import FeedFanout.Proofs.Reading
import Mathlib.Data.List.Infix

/-!
Chronicles of feeds. Of all calls so far, the chronicle of a user's feed has what came in since the last rebuild, and
behind it what that rebuild was given. Whatever the calls were, the feed is the beginning of its chronicle
(`FeedCache.feed_prefix`), and where all of them keep to one cap it is as much of it as the cap allows
(`FeedCache.feed_capped`). What is done to other feeds does not matter (`FeedCache.chronicled`).
-/
namespace FeedFanout

namespace Call

/-- The user whose feed the call reads or changes. -/
def feedOf? : Call → Option UserId
  | .exists user | .read user _ _ | .push user _ _ | .prepend user _ | .trim user _ | .rebuild user _ _ => some user
  | _ => none

/-- The entry that the call puts in front of a user's feed. -/
def enters? (user : UserId) : Call → Option FeedEntry
  | .push other entry _ | .prepend other entry => if other = user then some entry else none
  | _ => none

/-- The entries that the call gives a user's feed in place of all others. -/
def renews? (user : UserId) : Call → Option (List FeedEntry)
  | .rebuild other entries _ => if other = user then some entries else none
  | _ => none

/-- What the call makes of a user's feed, which need not be there. -/
def apply (user : UserId) (feed : Option (List FeedEntry)) : Call → Option (List FeedEntry)
  | .prepend other entry => if other = user then some (entry :: feed.getD []) else feed
  | .push other entry cap => if other = user then some ((entry :: feed.getD []).take cap) else feed
  | .trim other cap => if other = user then feed.map (·.take cap) else feed
  | .rebuild other entries cap => if other = user then some (entries.take cap) else feed
  | _ => feed

theorem apply_other {user : UserId} {call : Call} (other : call.feedOf? ≠ some user)
    (feed : Option (List FeedEntry)) : call.apply user feed = feed := by
  cases call with
  | prepend | push | trim | rebuild => exact if_neg fun same => other (congrArg some same)
  | _ => rfl

/-- A call brings a feed into being, or leaves it absent or present as it is. -/
theorem isSome_apply (user : UserId) (feed : Option (List FeedEntry)) (call : Call) :
    (call.apply user feed).isSome ↔
      feed.isSome ∨ (call.enters? user).isSome ∨ (call.renews? user).isSome := by
  cases call with
  | prepend other | push other | trim other | rebuild other =>
    by_cases mine : other = user <;> simp [apply, enters?, renews?, mine]
  | _ => simp [apply, enters?, renews?]

end Call

/-- What came into a user's feed since its last rebuild, newest first, and behind it what that rebuild was given. -/
def chronicle (user : UserId) (calls : List Call) : List FeedEntry :=
  (calls.reverse.takeWhile fun call => (call.renews? user).isNone).filterMap (·.enters? user) ++
    (calls.reverse.findSome? (·.renews? user)).getD []

theorem chronicle_concat (user : UserId) (calls : List Call) (call : Call) :
    chronicle user (calls ++ [call]) =
      match call.renews? user with
      | some entries => entries
      | none => (call.enters? user).toList ++ chronicle user calls := by
  unfold chronicle
  rw [List.reverse_append, List.reverse_singleton, List.singleton_append, List.takeWhile_cons, List.findSome?_cons]
  cases call.renews? user with
  | some entries => rfl
  | none => cases entered : call.enters? user <;> simp [entered]

namespace World

/-- The world after these calls were performed. -/
def through (w : World) (calls : List Call) : World := calls.foldl (fun w call => (w.perform call).world) w

theorem through_concat (w : World) (calls : List Call) (call : Call) :
    w.through (calls ++ [call]) = ((w.through calls).perform call).world := by
  simp [through]

theorem feed?_perform (w : World) (call : Call) (user : UserId) :
    (w.perform call).world.cache.feed? user = call.apply user (w.cache.feed? user) := by
  cases call with
  | append post =>
    simp only [perform]
    split <;> rfl
  | publish | subscribe =>
    simp only [perform]
    split <;> rfl
  | prepend other entry =>
    change (w.cache.put other _).feed? user = _
    by_cases mine : user = other
    · simp [Call.apply, mine, FeedCache.feed]
    · simp [Call.apply, mine, Ne.symm mine]
  | push other entry cap =>
    change (w.cache.put other _).feed? user = _
    by_cases mine : user = other
    · simp [Call.apply, mine, FeedCache.feed]
    · simp [Call.apply, mine, Ne.symm mine]
  | trim other cap =>
    change (w.cache.trim other cap).feed? user = _
    unfold FeedCache.trim
    by_cases mine : user = other
    · subst mine
      cases there : w.cache.feed? user <;> simp [Call.apply, there]
    · cases there : w.cache.feed? other <;> simp [Call.apply, mine, Ne.symm mine]
  | rebuild other entries cap =>
    change (w.cache.put other _).feed? user = _
    by_cases mine : user = other
    · simp [Call.apply, mine]
    · simp [Call.apply, mine, Ne.symm mine]
  | _ => rfl

/-- What is done to other feeds leaves a feed as it is, or absent. -/
theorem feed?_through_others (w : World) {user : UserId} {calls : List Call}
    (others : ∀ call ∈ calls, call.feedOf? ≠ some user) :
    (w.through calls).cache.feed? user = w.cache.feed? user := by
  induction calls generalizing w with
  | nil => rfl
  | cons call calls ih =>
    obtain ⟨other, others⟩ := List.forall_mem_cons.mp others
    change ((w.perform call).world.through calls).cache.feed? user = _
    rw [ih _ others, feed?_perform, Call.apply_other other]

end World

namespace FeedCache
variable {w : World} {user : UserId} {calls : List Call} {cap : Nat}

/-- A feed is there once something came in or the feed was rebuilt. -/
theorem has_iff (absent : w.cache.feed? user = none) :
    (w.through calls).cache.has user = true ↔
      ∃ call ∈ calls, (call.enters? user).isSome ∨ (call.renews? user).isSome := by
  induction calls using List.reverseRecOn with
  | nil => simp [has, World.through, absent]
  | append_singleton calls call ih =>
    rw [has] at ih
    rw [has, World.through_concat, World.feed?_perform, Call.isSome_apply, ih]
    simp [or_and_right, exists_or]

/-- Whatever was done, a feed is the beginning of its chronicle. -/
theorem feed_prefix (absent : w.cache.feed? user = none) (calls : List Call) :
    (w.through calls).cache.feed user <+: chronicle user calls := by
  induction calls using List.reverseRecOn with
  | nil => simp [World.through, feed, absent]
  | append_singleton calls call ih =>
    rw [World.through_concat, feed, World.feed?_perform, chronicle_concat]
    rw [feed] at ih
    cases call with
    | prepend other entry =>
      by_cases mine : other = user
      · simpa [Call.apply, Call.renews?, Call.enters?, mine] using ih
      · simpa [Call.apply, Call.renews?, Call.enters?, mine] using ih
    | push other entry cap =>
      by_cases mine : other = user
      · have front : entry :: ((w.through calls).cache.feed? user).getD [] <+: entry :: chronicle user calls := by
          simpa using ih
        simpa [Call.apply, Call.renews?, Call.enters?, mine] using (List.take_prefix ..).trans front
      · simpa [Call.apply, Call.renews?, Call.enters?, mine] using ih
    | trim other cap =>
      by_cases mine : other = user
      · cases there : (w.through calls).cache.feed? user with
        | none => simp [Call.apply, mine]
        | some feed =>
          rw [there] at ih
          simpa [Call.apply, Call.renews?, Call.enters?, mine, there] using (List.take_prefix cap feed).trans ih
      · simpa [Call.apply, Call.renews?, Call.enters?, mine] using ih
    | rebuild other entries cap =>
      by_cases mine : other = user
      · simpa [Call.apply, Call.renews?, mine] using List.take_prefix cap entries
      · simpa [Call.apply, Call.renews?, Call.enters?, mine] using ih
    | _ => exact ih

/-- All that comes into a user's feed is pushed with one cap, and the feed is rebuilt with no other. -/
structure Uniform (cap : Nat) (user : UserId) (calls : List Call) : Prop where
  never : ∀ entry, .prepend user entry ∉ calls
  pushed : ∀ entry room, .push user entry room ∈ calls → room = cap
  rebuilt : ∀ entries room, .rebuild user entries room ∈ calls → room = cap

theorem Uniform.before {call : Call} (uniform : Uniform cap user (calls ++ [call])) : Uniform cap user calls where
  never entry member := uniform.never entry (List.mem_append_left _ member)
  pushed entry room member := uniform.pushed entry room (List.mem_append_left _ member)
  rebuilt entries room member := uniform.rebuilt entries room (List.mem_append_left _ member)

/-- Where all calls keep to one cap, a feed is as much of its chronicle as the cap allows. -/
theorem feed_capped (absent : w.cache.feed? user = none) (uniform : Uniform cap user calls)
    (wide : ∀ room, .trim user room ∈ calls → cap ≤ room) :
    (w.through calls).cache.feed user = (chronicle user calls).take cap := by
  induction calls using List.reverseRecOn with
  | nil => simp [World.through, feed, absent, chronicle]
  | append_singleton calls call ih =>
    have held := ih uniform.before fun room member => wide room (List.mem_append_left _ member)
    have last : call ∈ calls ++ [call] := List.mem_append_right _ (List.mem_singleton_self _)
    rw [World.through_concat, feed, World.feed?_perform, chronicle_concat]
    rw [feed] at held
    cases call with
    | prepend other entry =>
      have mine : other ≠ user := by
        rintro rfl
        exact uniform.never entry last
      simpa [Call.apply, Call.renews?, Call.enters?, mine] using held
    | push other entry room =>
      by_cases mine : other = user
      · subst mine
        obtain rfl := uniform.pushed entry room last
        have front := take_append_take [entry] (chronicle other calls) room
        simpa [Call.apply, Call.renews?, Call.enters?, held] using front
      · simpa [Call.apply, Call.renews?, Call.enters?, mine] using held
    | trim other room =>
      by_cases mine : other = user
      · subst mine
        have fits : ((chronicle other calls).take cap).length ≤ room :=
          (List.length_take_le ..).trans (wide room last)
        cases there : (w.through calls).cache.feed? other with
        | none => simpa [Call.apply, Call.renews?, Call.enters?, there] using held
        | some feed =>
          rw [there] at held
          change feed = _ at held
          simp [Call.apply, Call.renews?, Call.enters?, held, List.take_of_length_le fits]
      · simpa [Call.apply, Call.renews?, Call.enters?, mine] using held
    | rebuild other entries room =>
      by_cases mine : other = user
      · subst mine
        obtain rfl := uniform.rebuilt entries room last
        simp [Call.apply, Call.renews?]
      · simpa [Call.apply, Call.renews?, Call.enters?, mine] using held
    | _ => exact held

/-- What there is to say of a user's feed after any calls on a cache that was empty. It is there once something came in
or it was rebuilt, and never goes away. It is the beginning of its chronicle, and as much of it as the cap allows where
pushes and rebuilds have one cap, nothing is prepended otherwise and nothing trimmed to less. What is done to others
does not change it. A read shows what stands at the places asked for, and like the question whether there is a feed it
leaves everything as it is. -/
theorem chronicled (w : World) (calls : List Call) (user : UserId) :
    let now := World.through { w with cache := .empty } calls
    (now.cache.has user = true ↔ ∃ call ∈ calls, (call.enters? user).isSome ∨ (call.renews? user).isSome) ∧
    now.cache.feed user <+: chronicle user calls ∧
    (∀ cap, Uniform cap user calls → (∀ room, .trim user room ∈ calls → cap ≤ room) →
      now.cache.feed user = (chronicle user calls).take cap) ∧
    (∀ others : List Call, (∀ call ∈ others, call.feedOf? ≠ some user) →
      (now.through others).cache.feed? user = now.cache.feed? user) ∧
    now.perform (.exists user) = ⟨.ok (now.cache.has user), now, []⟩ ∧
    ∀ offset limit, ∃ entries, now.perform (.read user offset limit) = ⟨.ok entries, now, []⟩ ∧
      ∀ i, entries[i]? =
        if ∀ bound, limit = some bound → i < bound.val then (now.cache.feed user)[offset + i]? else none := by
  intro now
  have absent : ({ w with cache := .empty } : World).cache.feed? user = none := rfl
  refine ⟨has_iff absent, feed_prefix absent calls, ?_, ?_, rfl, ?_⟩
  · intro cap uniform wide
    exact feed_capped absent uniform wide
  · intro others apart
    exact now.feed?_through_others apart
  · intro offset limit
    exact ⟨_, rfl, Window.getElem?_bounded_drop limit (now.cache.feed user) offset⟩

/-- A feed that was trimmed to less than the cap of its pushes is shorter than the cap would allow. -/
theorem trimmed_short :
    ¬∀ (w : World) (calls : List Call) (user : UserId) (cap : Nat), Uniform cap user calls →
      (World.through { w with cache := .empty } calls).cache.feed user = (chronicle user calls).take cap := by
  intro all
  let entry (n : UInt8) : FeedEntry := ⟨⟨#[n]⟩⟩
  have short := all (.empty 1 .ofNat)
    [.push (.ofNat 7) (entry 1) 3, .push (.ofNat 7) (entry 2) 3, .trim (.ofNat 7) 1] (.ofNat 7) 3
    ⟨by simp, by simp; rintro _ _ (⟨-, rfl⟩ | ⟨-, rfl⟩) <;> rfl, by simp⟩
  have lengths := congrArg List.length short
  cases lengths

end FeedCache
end FeedFanout
