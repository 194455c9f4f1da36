import FeedFanout.Proofs.Chronicles
import FeedFanout.Proofs.Faults
import FeedFanout.Proofs.Windows

/-!
The store of posts, whatever is called. An identifier is in use once a post with it was appended
(`World.mem_taken_through`), a post with such an identifier is refused, and any other goes in front of all others, which
stay as they are (`World.posts_suffix`). A query shows the posts of its authors place by place
(`PostLog.getElem?_query`), so that pages that follow each other join (`World.append_only`).
-/
namespace FeedFanout

/-- What stands at a place among the good elements of a list has so many good elements before it. -/
theorem getElem?_filter_eq_some_iff {α : Type} {good : α → Bool} {xs : List α} {i : Nat} {x : α} :
    (xs.filter good)[i]? = some x ↔
      good x = true ∧ ∃ before behind, xs = before ++ x :: behind ∧ before.countP good = i := by
  constructor
  · intro found
    obtain ⟨short, rfl⟩ := List.getElem?_eq_some_iff.mp found
    have cut : xs.filter good = (xs.filter good).take i ++ (xs.filter good)[i] :: (xs.filter good).drop (i + 1) := by
      rw [← List.drop_eq_getElem_cons short, List.take_append_drop]
    obtain ⟨front, rest, whole, fronts, rests⟩ := List.filter_eq_append_iff.mp cut
    obtain ⟨bad, behind, rfl, none, isGood, -⟩ := List.filter_eq_cons_iff.mp rests
    refine ⟨isGood, front ++ bad, behind, by rw [List.append_assoc]; exact whole, ?_⟩
    have length : (front.filter good).length = i := by rw [fronts, List.length_take, Nat.min_eq_left short.le]
    rw [List.countP_append, List.countP_eq_zero.mpr none, List.countP_eq_length_filter, length, Nat.add_zero]
  · rintro ⟨isGood, before, behind, rfl, rfl⟩
    rw [List.filter_append, List.filter_cons_of_pos isGood, List.countP_eq_length_filter]
    simp

namespace PostLog

/-- The post is by one of the authors, and so many newer posts in the log are by them, too. -/
def Stands (log : PostLog) (authors : List UserId) (place : Nat) (post : Post) : Prop :=
  post.author ∈ authors ∧
    ∃ newer older, log.posts = newer ++ post :: older ∧ newer.countP (·.author ∈ authors) = place

theorem getElem?_byAuthors {log : PostLog} {authors : List UserId} {place : Nat} {post : Post} :
    (log.byAuthors authors)[place]? = some post ↔ log.Stands authors place post := by
  simp [byAuthors, getElem?_filter_eq_some_iff, Stands]

/-- At a place of the answer is the post that stands so far behind the start, if the limit reaches as far. -/
theorem getElem?_query {log : PostLog} {authors : List UserId} {window : Window} {i : Nat} {post : Post} :
    (log.query authors window)[i]? = some post ↔
      (∀ limit, window.limit = some limit → i < limit.val) ∧ log.Stands authors (window.start + i) post := by
  rw [query, Window.select, Window.getElem?_bounded_drop, ← getElem?_byAuthors]
  split
  · rename_i inside
    exact (and_iff_right inside).symm
  · rename_i outside
    exact iff_of_false (Option.some_ne_none post).symm fun stands => outside stands.1

/-- It does not matter in which order authors are given, and how often. -/
theorem query_congr (log : PostLog) {authors others : List UserId} (same : ∀ author, author ∈ authors ↔ author ∈ others)
    (window : Window) : log.query authors window = log.query others window := by
  simp only [query, byAuthors, same]

end PostLog

namespace World

/-- One of the calls was to append a post with this identifier, and succeeded. -/
def Accepted (w : World) (calls : List Call) (id : PostId) : Prop :=
  ∃ earlier post later, calls = earlier ++ .append post :: later ∧ post.id = id ∧
    ((w.through earlier).perform (.append post)).reply = .ok ()

theorem accepted_concat {w : World} {calls : List Call} {call : Call} {id : PostId} :
    w.Accepted (calls ++ [call]) id ↔ w.Accepted calls id ∨
      ∃ post, call = .append post ∧ post.id = id ∧ ((w.through calls).perform (.append post)).reply = .ok () := by
  constructor
  · rintro ⟨earlier, post, later, whole, named, success⟩
    obtain rfl | ⟨before, last, rfl⟩ := later.eq_nil_or_concat'
    · obtain ⟨rfl, last⟩ := List.append_inj' whole rfl
      exact .inr ⟨post, List.singleton_inj.mp last, named, success⟩
    · rw [← List.cons_append, ← List.append_assoc] at whole
      obtain ⟨rfl, -⟩ := List.append_inj' whole rfl
      exact .inl ⟨earlier, post, before, rfl, named, success⟩
  · rintro (⟨earlier, post, later, rfl, named, success⟩ | ⟨post, rfl, named, success⟩)
    · exact ⟨earlier, post, later ++ [call], by simp, named, success⟩
    · exact ⟨calls, post, [], rfl, named, success⟩

/-- A call to append a post, or any other. -/
theorem append_or_other (call : Call) : (∃ post, call = .append post) ∨ ∀ post, call ≠ .append post := by
  by_cases append : ∃ post, call = .append post
  · exact .inl append
  · exact .inr fun post same => append ⟨post, same⟩

theorem exact_perform {w : World} (exact : w.log.Exact) (call : Call) : (w.perform call).world.log.Exact := by
  obtain ⟨post, rfl⟩ | other := append_or_other call
  · rw [perform_append]
    split
    · exact exact
    · exact exact_stored exact ‹_›
  · rwa [perform_log w other]

theorem exact_through {w : World} (exact : w.log.Exact) (calls : List Call) : (w.through calls).log.Exact := by
  induction calls using List.reverseRecOn with
  | nil => exact exact
  | append_singleton calls call ih =>
    rw [through_concat]
    exact exact_perform ih call

/-- The identifiers in use are those that were accepted. -/
theorem mem_taken_through {w : World} (unwritten : w.log = .empty) {calls : List Call} {id : PostId} :
    id ∈ (w.through calls).log.taken ↔ w.Accepted calls id := by
  induction calls using List.reverseRecOn with
  | nil => simp [through, unwritten, PostLog.empty, Accepted]
  | append_singleton calls call ih =>
    rw [through_concat, accepted_concat, ← ih]
    obtain ⟨post, rfl⟩ | other := append_or_other call
    · rw [perform_append]
      by_cases used : post.id ∈ (w.through calls).log.taken
      · simp [perform_append, used]
      · simp [perform_append, used, stored, or_comm, eq_comm]
    · rw [perform_log _ other]
      simp [other]

/-- What a call adds to the posts goes in front of them. -/
theorem posts_suffix_perform (w : World) (call : Call) : w.log.posts <:+ (w.perform call).world.log.posts := by
  obtain ⟨post, rfl⟩ | other := append_or_other call
  · rw [perform_append]
    split
    · exact List.suffix_refl _
    · exact List.suffix_cons ..
  · rw [perform_log w other]

theorem posts_suffix (w : World) (calls : List Call) : w.log.posts <:+ (w.through calls).log.posts := by
  induction calls using List.reverseRecOn with
  | nil => exact List.suffix_refl _
  | append_singleton calls call ih =>
    rw [through_concat]
    exact ih.trans (posts_suffix_perform ..)

/-- What there is to say of a store that was empty, after any calls. The identifiers in use are those of the posts, and no
two posts share one. A post is refused as a duplicate exactly if one with its identifier was accepted before, and then
nothing changes; otherwise it goes in front of all others, and nothing else changes. Posts stay as they are, in their
places from the end, whatever is called then. At each place of an answer is the post by one of the authors that so many
newer posts by them are in front of, as far as the limit reaches. The answer depends neither on who asks nor on the
order and number of the authors, and that for a window is what the answers for two parts of it come to. -/
theorem append_only (w : World) (calls : List Call) :
    let start : World := { w with log := .empty }
    let now := start.through calls
    ((∀ id, id ∈ now.log.taken ↔ ∃ post ∈ now.log.posts, post.id = id) ∧ (now.log.posts.map (·.id)).Nodup) ∧
    (∀ post,
      ((now.perform (.append post)).reply = .error (.duplicate "posts_pkey") ↔ start.Accepted calls post.id) ∧
      (start.Accepted calls post.id → (now.perform (.append post)).world = now) ∧
      (¬start.Accepted calls post.id → (now.perform (.append post)).reply = .ok () ∧
        ∃ log, (now.perform (.append post)).world = { now with log } ∧ log.posts = post :: now.log.posts)) ∧
    (∀ more, now.log.posts <:+ (now.through more).log.posts) ∧
    (∀ user authors window, ∃ posts, now.perform (.query user authors window) = ⟨.ok posts, now, []⟩ ∧
      ∀ i post, posts[i]? = some post ↔
        (∀ limit, window.limit = some limit → i < limit.val) ∧ now.log.Stands authors (window.start + i) post) ∧
    (∀ user other authors others window, (∀ author, author ∈ authors ↔ author ∈ others) →
      (now.perform (.query user authors window)).reply = (now.perform (.query other others window)).reply) ∧
    ∀ user authors (a b both offset next : Bound), both.val = a.val + b.val → next.val = offset.val + a.val →
      ∃ first second, (now.perform (.query user authors (.of a offset))).reply = .ok first ∧
        (now.perform (.query user authors (.of b next))).reply = .ok second ∧
        (now.perform (.query user authors (.of both offset))).reply = .ok (first ++ second) := by
  intro start now
  have exact : now.log.Exact := exact_through .empty calls
  have used (id : PostId) : id ∈ now.log.taken ↔ start.Accepted calls id := mem_taken_through rfl
  refine ⟨⟨exact.taken, exact.distinct⟩, ?_, now.posts_suffix, ?_, ?_, ?_⟩
  · intro post
    rw [perform_append, ← used]
    by_cases taken : post.id ∈ now.log.taken
    · simp [taken]
    · simp [taken, stored]
  · intro user authors window
    exact ⟨_, rfl, fun i post => PostLog.getElem?_query⟩
  · intro user other authors others window same
    exact congrArg Except.ok (now.log.query_congr same window)
  · intro user authors a b both offset next sum behind
    refine ⟨_, _, rfl, rfl, congrArg Except.ok ?_⟩
    exact (Window.select_append sum behind (now.log.byAuthors authors)).symm

/-- Two posts and a duplicate, read in two pages of one and as a whole. -/
theorem append_only_pages :
    let post (n : Nat) : Post := ⟨.ofNat n, .ofNat 8, "a"⟩
    let start : World := { World.empty 1 .ofNat with log := .empty }
    let calls : List Call := [.append (post 1), .append (post 2), .append (post 1)]
    start.Accepted calls (.ofNat 1) ∧
      ((start.through calls).perform (.append (post 1))).reply = .error (.duplicate "posts_pkey") ∧
      ((start.through calls).perform (.query (.ofNat 7) [.ofNat 8, .ofNat 9, .ofNat 8] (.of 2 0))).reply =
        ((start.through calls).perform (.query (.ofNat 5) [.ofNat 9, .ofNat 8] (.of 2 0))).reply ∧
      ((start.through calls).perform (.query (.ofNat 7) [.ofNat 8] (.of 2 0))).reply = .ok [post 2, post 1] := by
  intro post start calls
  obtain ⟨-, appends, -, -, alike, joins⟩ := append_only (World.empty 1 .ofNat) calls
  have accepted : start.Accepted calls (.ofNat 1) :=
    ⟨[], post 1, [.append (post 2), .append (post 1)], rfl, rfl, rfl⟩
  obtain ⟨first, second, newest, oldest, whole⟩ := joins (.ofNat 7) [.ofNat 8] 1 1 2 0 1 rfl rfl
  have pages : first = [post 2] ∧ second = [post 1] := by
    cases newest
    cases oldest
    decide
  rw [pages.1, pages.2] at whole
  refine ⟨accepted, (appends (post 1)).1.mpr accepted, ?_, whole⟩
  exact alike _ _ _ _ _ fun author => by simp [or_comm]

end World
end FeedFanout
