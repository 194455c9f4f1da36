import FeedFanout.Proofs.Causes
import FeedFanout.Proofs.Spelling
import FeedFanout.Proofs.Trials

/-!
Omissions. An error has one error under it at most, and a fanout that failed at several friends has its first failure.
So what is reported of it names one friend, and others only if the same has become of them
(`Service.names_first`).
-/
namespace FeedFanout

namespace Fanout

theorem Failure.toList_message (f : Failure) :
    f.message.toList = "friend ".toList ++ (f.friend.chars ++
      (" failed at ".toList ++ (f.step.name.toList ++ (": ".toList ++ f.cause.message.toList)))) := by
  simp [Failure.message, String.toList_append, Id.text, toString]

theorem Failure.message_eq_iff {f g : Failure} :
    f.message = g.message ↔ f.friend = g.friend ∧ f.step = g.step ∧ f.cause.message = g.cause.message := by
  constructor
  · intro same
    have spelled := congrArg String.toList same
    rw [toList_message, toList_message, List.append_cancel_left_eq] at spelled
    obtain ⟨friends, rest⟩ := List.append_inj spelled (by rw [Id.length_chars, Id.length_chars])
    rw [List.append_cancel_left_eq] at rest
    refine ⟨Id.chars_injective friends, ?_⟩
    cases first : f.step <;> cases second : g.step
    all_goals
      rw [first, second] at rest
      simp [Step.name] at rest
    · exact ⟨rfl, String.toList_injective rest⟩
    · exact ⟨rfl, String.toList_injective rest⟩
  · rintro ⟨friends, steps, causes⟩
    rw [Failure.message, Failure.message, friends, steps, causes]

/-! ### Texts that name no friend -/

theorem take_append {text : String} {a b : Char} (start : text.toList.take 2 = [a, b]) (rest : String) :
    (text ++ rest).toList.take 2 = [a, b] := by
  have long : 2 ≤ text.toList.length := by
    have length := congrArg List.length start
    rw [List.length_take] at length
    exact min_eq_left_iff.mp length
  rw [String.toList_append, List.take_append_of_le_length long, start]

theorem take_message (f : Failure) : f.message.toList.take 2 = ['f', 'r'] := by
  rw [f.toList_message]
  rfl

/-- The text starts otherwise than one that names a friend. -/
def Unnamed (text : String) : Prop := ∃ a b, text.toList.take 2 = [a, b] ∧ [a, b] ≠ ['f', 'r']

theorem Unnamed.ne {text : String} (unnamed : Unnamed text) (f : Failure) : f.message ≠ text := by
  rintro rfl
  obtain ⟨a, b, start, other⟩ := unnamed
  exact other (start.symm.trans (take_message f))

theorem unnamed_flaw (flaw : Json.Flaw) : Unnamed flaw.message := by
  cases flaw <;> exact ⟨_, _, rfl, by decide⟩

theorem unnamed_fault (fault : Json.Fault Id.Error) :
    Unnamed (fault.message fun cause => s!"UUID parsing failed: {cause.message}") := by
  cases fault with
  | flaw flaw => exact unnamed_flaw flaw
  | missing field => exact ⟨'m', 'i', take_append (take_append rfl _) _, by decide⟩
  | duplicate field => exact ⟨'d', 'u', take_append (take_append rfl _) _, by decide⟩
  | length found expected =>
    exact ⟨'i', 'n', take_append (take_append (take_append rfl _) _) _, by decide⟩
  | mismatch found expected =>
    exact ⟨'i', 'n', take_append (take_append (take_append rfl _) _) _, by decide⟩
  | custom cause => exact ⟨'U', 'U', take_append rfl _, by decide⟩

theorem Unnamed.append {text : String} (unnamed : Unnamed text) (more : String) : Unnamed (text ++ more) := by
  obtain ⟨a, b, start, other⟩ := unnamed
  exact ⟨a, b, take_append start _, other⟩

theorem unnamed_document (e : Post.CodecError) : Unnamed (Post.CodecError.message e) := by
  obtain ⟨fault, _ | position⟩ := e
  · exact unnamed_fault fault
  · exact ((((unnamed_fault fault).append _).append _).append _).append _

theorem unnamed_cause (c : Cause) : ∀ text ∈ c.chain, Unnamed text := by
  cases c with
  | cache e =>
    cases e with
    | unavailable message => exact List.forall_mem_singleton.mpr ⟨'f', 'e', take_append rfl _, by decide⟩
    | codec fault =>
      refine List.forall_mem_cons.mpr ⟨⟨'f', 'e', take_append rfl _, by decide⟩, ?_⟩
      exact List.forall_mem_singleton.mpr (unnamed_document fault)
  | notify e =>
    cases e with
    | transport message => exact List.forall_mem_singleton.mpr ⟨'n', 'o', take_append rfl _, by decide⟩
    | codec fault =>
      refine List.forall_mem_cons.mpr ⟨⟨'f', 'a', take_append rfl _, by decide⟩, ?_⟩
      exact List.forall_mem_singleton.mpr (unnamed_document fault)
  | timeout limit => exact List.forall_mem_singleton.mpr ⟨'t', 'i', take_append rfl _, by decide⟩

theorem unnamed_report (report : Partial) : Unnamed report.message :=
  ⟨'f', 'a', take_append (take_append (take_append (take_append (take_append rfl _) _) _) _) _, by decide⟩

/-- Of the texts in the chain of a failure, its own is the only one that names a friend. -/
theorem message_mem_chain_iff {f first : Failure} : f.message ∈ first.chain ↔ f.message = first.message := by
  constructor
  · intro member
    obtain own | below := List.mem_cons.mp member
    · exact own
    · exact absurd rfl ((unnamed_cause first.cause f.message below).ne f)
  · intro same
    rw [same]
    exact List.mem_cons_self

end Fanout

namespace Service
variable {s : Service} {post : Post} {friends : List UserId} {calls : List Made} {report : Fanout.Partial}

/-- What is reported of a fanout that did not reach every friend. -/
structure NamesFirst (s : Service) (report : Fanout.Partial) (first : Fanout.Failure) (chain : List String) : Prop where
  head : report.failures.head? = some first
  alone : s.policy = .failFast → report.failures = [first]
  reported : (Http.Reply.ofFeedError (.partialFanout report)).report =
    some ⟨"infra::http::feed_error_to_http_error", chain⟩
  texts : chain = "post stored but not delivered to every friend" :: report.message :: first.chain
  whole : (AnyError.feed (.partialFanout report)).Chain chain
  named : ∀ failure ∈ report.failures, failure.message ∈ chain ↔
    failure.friend = first.friend ∧ failure.step = first.step ∧ failure.cause.message = first.cause.message

theorem names_first_of_reports {reach : Reach} (reports : s.Reports post friends calls reach)
    (failed : reach.failures ≠ []) : ∃ first chain, NamesFirst s (reach.report post) first chain := by
  obtain ⟨first, later, failures⟩ := List.exists_cons_of_ne_nil failed
  have head : (reach.report post).failures.head? = some first := by rw [Reach.report, failures, List.head?_cons]
  have below : (reach.report post).chain = (reach.report post).message :: first.chain := by
    rw [Fanout.Partial.chain, head]
    rfl
  refine ⟨first, _, head, ?_, rfl, congrArg (_ :: ·) below, AnyError.chain_feed _, ?_⟩
  · intro fast
    obtain ⟨trials, tells, policed⟩ := reports.trials
    rw [fast] at policed
    obtain ⟨fine, -⟩ | ⟨failure, one, -⟩ := policed
    · exact absurd fine failed
    · rw [failures] at one
      cases one
      exact failures
  · intro failure member
    rw [← Fanout.Failure.message_eq_iff, ← Fanout.message_mem_chain_iff, FeedError.chain, FeedError.sources,
      below, List.mem_cons, List.mem_cons]
    have unnamed : Fanout.Unnamed "post stored but not delivered to every friend" := ⟨'p', 'o', by decide, by decide⟩
    constructor
    · rintro (outer | report | inner)
      · exact absurd outer (unnamed.ne failure)
      · exact absurd report ((Fanout.unnamed_report _).ne failure)
      · exact inner
    · exact fun inner => .inr (.inr inner)

/-- Whatever becomes of its calls, a creation that did not reach every friend is reported with its first failure. Others
are named only if the same has become of the same friend. -/
theorem names_first {author : UserId}
    (goes : (s.createPost author post).Goes calls (.done (.error (.partialFanout report)))) :
    ∃ first chain, NamesFirst s report first chain := by
  obtain ⟨rfl, answers⟩ | ⟨-, -, other⟩ := goes_answers goes
  · generalize same : (Except.error (FeedError.partialFanout report) : Except FeedError PostId) = answer at answers
    cases answers with
    | @unstored reply error bad =>
      cases same
      obtain _ | e | done := reply
      · cases bad
      · cases e <;> cases bad
      · cases bad
    | @unlisted reply error bad =>
      cases same
      obtain _ | e | friends := reply <;> cases bad
    | @reached friends calls reach reports =>
      unfold Reach.answer at same
      split at same
      · cases same
      · cases same
        exact names_first_of_reports reports (by simpa using ‹¬reach.failures.isEmpty = true›)
  · cases other

/-- A fanout that reached neither of two friends. -/
def twoMissed : Fanout.Partial :=
  ⟨.ofNat 10, [], [⟨.ofNat 2, .cacheWrite, .cache (.unavailable "down")⟩, ⟨.ofNat 3, .notify, .timeout (.ofSeconds 5)⟩], []⟩

/-- The creation of a post whose fanout this is. -/
theorem goes_twoMissed :
    ∃ calls, Task.Goes (createPost { policy := .bestEffort } (.ofNat 1) ⟨.ofNat 10, .ofNat 1, "a"⟩) calls
      (.done (.error (.partialFanout twoMissed))) := by
  let post : Post := ⟨.ofNat 10, .ofNat 1, "a"⟩
  refine ⟨[⟨.append post, some (.ok ())⟩, ⟨.friendsOf (.ofNat 1), some (.ok [.ofNat 2, .ofNat 3])⟩,
    ⟨.push (.ofNat 2) (.snapshot post) 1000, some (.error (.unavailable "down"))⟩,
    ⟨.push (.ofNat 3) (.snapshot post) 1000, some (.ok ())⟩, ⟨.publish (.ofNat 3) post, none⟩], ?_⟩
  refine .askWithin (.tell (.askWithin ?_))
  change Task.Goes (share _ post [.ofNat 2, .ofNat 3]) _ _
  rw [share, fanout_eq]
  -- The push to the first friend fails.
  refine .askWithin ?_
  refine .tell (.tell ?_)
  -- The second is not notified in time.
  refine .askWithin ?_
  refine .askWithin ?_
  refine .tell (.tell (.tell (.tell (.stay _))))

theorem names_first_twoMissed :
    ∃ first chain, NamesFirst { policy := .bestEffort } twoMissed first chain := by
  obtain ⟨calls, goes⟩ := goes_twoMissed
  exact names_first goes

/-- The failure at the second of two friends is in no report. -/
theorem twoMissed_unnamed :
    ¬∀ (s : Service) (author : UserId) (post : Post) (calls : List Made) (report : Fanout.Partial),
      (s.createPost author post).Goes calls (.done (.error (.partialFanout report))) →
        ∀ reported, (Http.Reply.ofFeedError (.partialFanout report)).report = some reported →
          ∀ failure ∈ report.failures, failure.message ∈ reported.chain := by
  intro whole
  obtain ⟨calls, goes⟩ := goes_twoMissed
  have named := whole _ _ _ _ _ goes _ rfl ⟨.ofNat 3, .notify, .timeout (.ofSeconds 5)⟩ (by simp [twoMissed])
  exact absurd named (by decide +kernel)

end Service
end FeedFanout
