import FeedFanout.Proofs.Delivery
import FeedFanout.Proofs.Warming
import FeedFanout.Service.Read

/-!
Errands: creating a post, rebuilding a feed, reading a feed. Every call of an errand is warranted by the replies that
the same errand has got before (`Errand.warranted`): nothing is pushed before the post was stored and the friends were
known, and nothing is published before it was pushed.
-/
namespace FeedFanout

/-! ### Kinds of calls -/

/-- A kind of calls of which more can follow. -/
class Chains (kind : List Made → Prop) : Prop where
  nil : kind []
  append : ∀ {first second : List Made}, kind first → kind second → kind (first ++ second)

/-- Whatever the replies, the task makes calls of this kind. -/
def Task.Always {α : Type} (kind : List Made → Prop) (t : Task α) : Prop := ∀ calls rest, t.Goes calls rest → kind calls

namespace Task.Always
variable {α β : Type} {kind : List Made → Prop} [chains : Chains kind]

theorem done (value : α) : (Task.done value).Always kind := by
  intro calls rest goes
  cases goes
  exact chains.nil

theorem tell {notice : Notice} {next : Task α} (later : next.Always kind) :
    (Task.tell notice next).Always kind := by
  intro calls rest goes
  obtain _ | ⟨goes⟩ := goes
  · exact chains.nil
  · exact later calls rest goes

theorem askWithin {limit : Span} {call : Call} {next : Option call.Reply → Task α}
    (one : ∀ reply, kind [⟨call, reply⟩]) (later : ∀ reply, (next reply).Always kind) :
    (Task.askWithin limit call next).Always kind := by
  intro calls rest goes
  obtain _ | _ | _ | @⟨_, _, _, reply, _, calls, goes⟩ := goes
  · exact chains.nil
  · exact chains.append (one reply) (later reply calls rest goes)

theorem bind {t : Task α} {f : α → Task β} (first : t.Always kind)
    (second : ∀ value, (f value).Always kind) : (t.bind f).Always kind := by
  intro calls rest goes
  obtain ⟨⟨inner, inside⟩, -⟩ | ⟨value, early, late, rfl, inside, after⟩ := goes.of_bind
  · exact first calls inner inside
  · exact chains.append (first early _ inside) (second value late rest after)

end Task.Always

/-- A call that neither writes to a feed nor publishes. -/
def Call.Harmless : Call → Prop
  | .append _ | .friendsOf _ | .query .. | .exists _ | .read .. => True
  | _ => False

/-- Whatever was published to a user was pushed into the user's feed before. -/
def Heralded (cap : Nat) (calls : List Made) : Prop :=
  ∀ before user post reply after, calls = before ++ ⟨.publish user post, reply⟩ :: after →
    ⟨.push user (.snapshot post) cap, some (.ok ())⟩ ∈ before

/-- Calls that neither write to a feed nor publish. -/
def Idle (calls : List Made) : Prop := ∀ made ∈ calls, made.call.Harmless

instance : Chains Idle :=
  ⟨nofun, fun left right made member => (List.mem_append.mp member).elim (left made) (right made)⟩

instance (cap : Nat) : Chains (Heralded cap) := by
  refine ⟨?_, ?_⟩
  · intro before user post reply after split
    simp at split
  · intro first second left right before user post reply after split
    obtain ⟨middle, rfl, late⟩ | ⟨middle, rfl, early⟩ := List.append_eq_append_iff.mp split
    · exact List.mem_append_right _ (right middle user post reply after late)
    · cases middle with
      | nil => simpa using right [] user post reply after early.symm
      | cons made middle =>
        obtain ⟨rfl, -⟩ := List.cons.inj early
        exact left before user post reply middle rfl

theorem heralded_of_never {cap : Nat} {calls : List Made}
    (never : ∀ made ∈ calls, ∀ user post, made.call ≠ .publish user post) : Heralded cap calls := by
  rintro before user post reply after rfl
  exact absurd rfl (never ⟨.publish user post, reply⟩ (by simp) user post)

namespace Service
variable (s : Service)

theorem idle_within (operation : Operation) {call : Call} (harmless : call.Harmless) :
    (s.within operation call).Always Idle := by
  refine Task.Always.askWithin (fun reply => List.forall_mem_singleton.mpr harmless) ?_
  intro reply
  cases reply <;> exact Task.Always.done _

theorem idle_friendsOf (user : UserId) :
    (s.friendsOf user).Always Idle := by
  refine Task.Always.bind (s.idle_within .friends trivial) ?_
  intro reply
  obtain _ | _ | friends := reply <;> exact Task.Always.done _

theorem idle_readStored (user : UserId) (window : Window) :
    (s.readStored user window).Always Idle := by
  refine Task.Always.bind (s.idle_friendsOf user) ?_
  intro friends
  cases friends with
  | error e => exact Task.Always.done _
  | ok friends =>
    refine Task.Always.bind (s.idle_within .query trivial) ?_
    intro reply
    obtain _ | _ | posts := reply
    · exact Task.Always.done _
    · exact Task.Always.done _
    · exact Task.Always.tell (Task.Always.done _)

theorem idle_readCached (user : UserId) (window : Window) :
    (s.readCached user window).Always Idle := by
  refine Task.Always.bind (s.idle_within .exists trivial) ?_
  intro reply
  obtain _ | _ | _ | _ := reply
  · exact Task.Always.done _
  · exact Task.Always.done _
  · exact Task.Always.done _
  · refine Task.Always.bind (s.idle_within .read trivial) ?_
    intro reply
    obtain _ | _ | entries := reply
    · exact Task.Always.done _
    · exact Task.Always.done _
    · cases decoded : decodeAll entries with
      | error e => simp only [decoded]; exact Task.Always.done _
      | ok posts => simp only [decoded]; exact Task.Always.done _

/-- A read of a feed writes nothing. -/
theorem idle_feedPage (user : UserId) (window : Window) :
    (s.feedPage user window).Always Idle := by
  unfold feedPage
  split
  · refine Task.Always.bind (s.idle_readCached user window) ?_
    intro read
    cases read with
    | absent => exact s.idle_readStored user window
    | unavailable reason =>
      exact Task.Always.tell (Task.Always.tell (s.idle_readStored user window))
    | corrupt e => exact Task.Always.done _
    | posts posts => exact Task.Always.tell (Task.Always.done _)
  · exact s.idle_readStored user window

theorem heralded_deliver (post : Post) (friend : UserId) :
    (s.deliver post (.snapshot post) friend).Always (Heralded s.capacity) := by
  intro calls rest goes
  change Task.Goes (.askWithin _ _ _) calls rest at goes
  obtain _ | _ | _ | @⟨_, _, _, reply, _, calls, goes⟩ := goes
  · exact Chains.nil
  have pushed : Heralded s.capacity [⟨.push friend (.snapshot post) s.capacity, reply⟩] := by
    refine heralded_of_never ?_
    rintro made member user other published
    rw [List.mem_singleton.mp member] at published
    cases published
  obtain _ | e | done := reply
  · cases goes
    exact pushed
  · cases goes
    exact pushed
  change Task.Goes (.askWithin _ _ _) calls rest at goes
  obtain _ | _ | _ | @⟨_, _, _, reply, _, calls, goes⟩ := goes
  · exact pushed
  obtain rfl : calls = [] := by
    obtain _ | e | done := reply <;> cases goes <;> rfl
  rintro (_ | ⟨first, _ | ⟨second, before⟩⟩) user other reply' after split
  · cases split
  · cases split
    exact List.mem_singleton_self _
  · simp at split

theorem heralded_reach (post : Post) (friends : List UserId) :
    (s.reach post (.snapshot post) friends).Always (Heralded s.capacity) := by
  induction friends with
  | nil => exact Task.Always.done _
  | cons friend friends ih =>
    refine Task.Always.bind (s.heralded_deliver post friend) ?_
    intro failed
    cases failed with
    | none =>
      change Task.Always _ (.tell _ ((s.reach post (.snapshot post) friends).bind fun later =>
        .done { later with delivered := friend :: later.delivered }))
      exact Task.Always.tell (Task.Always.bind ih fun _ => Task.Always.done _)
    | some failure =>
      change Task.Always _ (.tell _ (.tell _ (s.passOver post (.snapshot post) failure friends)))
      refine Task.Always.tell (Task.Always.tell ?_)
      unfold passOver
      split
      · exact Task.Always.done _
      · exact Task.Always.bind ih fun _ => Task.Always.done _

theorem heralded_fanout (post : Post) (friends : List UserId) :
    (s.fanout post friends).Always (Heralded s.capacity) := by
  rw [fanout_eq]
  exact Task.Always.bind (s.heralded_reach post _) fun _ => Task.Always.tell (Task.Always.done _)

/-- Calls that do not publish. -/
theorem heralded_of_idle {α : Type} {t : Task α} (idle : t.Always Idle) : t.Always (Heralded s.capacity) := by
  intro calls rest goes
  refine heralded_of_never ?_
  intro made member user post published
  have harmless := idle calls rest goes made member
  rw [published] at harmless
  exact harmless

theorem heralded_spread (author : UserId) (post : Post) : (s.spread author post).Always (Heralded s.capacity) := by
  refine Task.Always.bind (s.heralded_of_idle (s.idle_friendsOf author)) ?_
  intro friends
  cases friends with
  | error e => exact Task.Always.done _
  | ok friends =>
    refine Task.Always.bind (s.heralded_fanout post friends) ?_
    rintro (e | delivered | report)
    · exact Task.Always.done _
    · exact Task.Always.tell (Task.Always.done _)
    · exact Task.Always.tell (Task.Always.done _)

theorem heralded_createPost (author : UserId) (post : Post) :
    (s.createPost author post).Always (Heralded s.capacity) := by
  unfold createPost
  split
  · exact Task.Always.done _
  refine Task.Always.bind (s.heralded_of_idle (s.idle_within .append trivial)) ?_
  intro reply
  obtain _ | _ | done := reply
  · exact Task.Always.done _
  · exact Task.Always.done _
  change Task.Always _ (.tell _ (s.spread author post))
  exact Task.Always.tell (s.heralded_spread author post)

end Service

/-! ### Errands -/

/-- What the service does at a time. -/
inductive Errand
  | create (author : UserId) (post : Post)
  | warm (user : UserId)
  | read (user : UserId) (window : Window)

/-- The call is warranted by the replies to other calls. -/
inductive Warranted (s : Service) (wm : Warmer) (calls : List Made) : Call → Prop
  | push {user : UserId} {post : Post} {friends : List UserId} (stored : ⟨.append post, some (.ok ())⟩ ∈ calls)
      (known : ⟨.friendsOf post.author, some (.ok friends)⟩ ∈ calls) (target : user ∈ Service.targets post friends) :
      Warranted s wm calls (.push user (.snapshot post) s.capacity)
  | publish {user : UserId} {post : Post} (stored : ⟨.append post, some (.ok ())⟩ ∈ calls)
      (pushed : ⟨.push user (.snapshot post) s.capacity, some (.ok ())⟩ ∈ calls) :
      Warranted s wm calls (.publish user post)
  | rebuild {user : UserId} {friends : List UserId} {window : Window} {posts : List Post}
      (known : ⟨.friendsOf user, some (.ok friends)⟩ ∈ calls)
      (found : ⟨.query user friends window, some (.ok posts)⟩ ∈ calls) :
      Warranted s wm calls (.rebuild user (posts.map .snapshot) wm.capacity)
  | harmless {call : Call} (harmless : call.Harmless) : Warranted s wm calls call

theorem Warranted.mono {s : Service} {wm : Warmer} {few many : List Made} {call : Call}
    (warranted : Warranted s wm few call) (more : ∀ made ∈ few, made ∈ many) : Warranted s wm many call := by
  cases warranted with
  | push stored known target => exact .push (more _ stored) (more _ known) target
  | publish stored pushed => exact .publish (more _ stored) (more _ pushed)
  | rebuild known found => exact .rebuild (more _ known) (more _ found)
  | harmless harmless => exact .harmless harmless

namespace Errand
variable {s : Service} {wm : Warmer}

/-- The task of an errand. Its answer is of no interest here. -/
def task (s : Service) (wm : Warmer) : Errand → Task Unit
  | create author post => (s.createPost author post).bind fun _ => .done ()
  | warm user => (wm.warmUser user).bind fun _ => .done ()
  | read user window => (s.feedPage user window).bind fun _ => .done ()

theorem warranted_create {post : Post} {calls : List Made} {made : Made} (steps : s.Steps post (calls ++ [made]))
    (heralded : Heralded s.capacity (calls ++ [made])) : Warranted s wm calls made.call := by
  have before : ∀ {other : Made}, other ∈ calls ++ [made] → other.call ≠ made.call → other ∈ calls := by
    intro other member apart
    rcases List.mem_append.mp member with early | last
    · exact early
    · rw [List.mem_singleton.mp last] at apart
      exact absurd rfl apart
  obtain ⟨call, reply⟩ := made
  obtain same | same | ⟨user, same⟩ | ⟨user, same⟩ :=
    steps.among (List.mem_append_right calls (List.mem_singleton_self _))
  · rw [same]
    exact .harmless trivial
  · rw [same]
    exact .harmless trivial
  · obtain rfl : call = .push user (.snapshot post) s.capacity := same
    obtain ⟨-, stored, friends, known, target⟩ :=
      steps.pushed (List.mem_append_right calls (List.mem_singleton_self _)) (if_pos rfl)
    exact .push (before stored nofun) (before known nofun) target
  · obtain rfl : call = .publish user post := same
    have pushed := heralded calls user post reply [] rfl
    obtain ⟨-, stored, -⟩ := steps.pushed (List.mem_append_left _ pushed) (if_pos rfl)
    exact .publish (before stored nofun) pushed

theorem warranted_warm {user : UserId} {calls : List Made} {made : Made} (steps : wm.Steps user (calls ++ [made])) :
    Warranted s wm calls made.call := by
  generalize whole : calls ++ [made] = all at steps
  cases steps with
  | rebuilt friends posts reply =>
    have split : calls ++ [made] =
      [⟨.friendsOf user, some (.ok friends)⟩, ⟨.query user friends wm.window, some (.ok posts)⟩] ++
        [⟨.rebuild user (posts.map .snapshot) wm.capacity, some reply⟩] := whole
    obtain ⟨rfl, last⟩ := List.append_inj' split rfl
    rw [List.singleton_inj.mp last]
    exact .rebuild List.mem_cons_self (List.mem_cons_of_mem _ List.mem_cons_self)
  | queried friends reply =>
    have split : calls ++ [made] =
      [⟨.friendsOf user, some (.ok friends)⟩] ++ [⟨.query user friends wm.window, some reply⟩] := whole
    rw [List.singleton_inj.mp (List.append_inj' split rfl).2]
    exact .harmless trivial
  | asked reply =>
    have split : calls ++ [made] = [] ++ [⟨.friendsOf user, some reply⟩] := whole
    rw [List.singleton_inj.mp (List.append_inj' split rfl).2]
    exact .harmless trivial
  | begun => simp at whole

/-- Every call of an errand is warranted by the replies that it has got before. -/
theorem warranted {errand : Errand} {calls : List Made} {made : Made} {rest : Task Unit}
    (goes : (errand.task s wm).Goes (calls ++ [made]) rest) : Warranted s wm calls made.call := by
  cases errand with
  | create author post =>
    obtain ⟨rest, inside, -⟩ := Task.Goes.of_map (t := s.createPost author post) goes
    exact warranted_create (Service.goes_createPost inside).1 (s.heralded_createPost author post _ _ inside)
  | warm user =>
    obtain ⟨rest, inside, -⟩ := Task.Goes.of_map (t := wm.warmUser user) goes
    exact warranted_warm (wm.goes_warmUser inside).1
  | read user window =>
    obtain ⟨rest, inside, -⟩ := Task.Goes.of_map (t := s.feedPage user window) goes
    have idle := s.idle_feedPage user window _ _ inside
    exact .harmless (idle made (List.mem_append_right _ (List.mem_singleton_self _)))

end Errand
end FeedFanout
