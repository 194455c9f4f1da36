import FeedFanout.Proofs.Holdings
import Mathlib.Logic.Relation

/-!
Scenes: any number of errands under way, each going on by itself or given up, while users come to know each other and
viewers come and go. Calls may fail. Whatever happens (`Scene.Sound.step`), a feed holds copies of stored posts by friends
and of nothing else, no more than there is room for, and nothing is put on a user's topic before it was pushed into the
user's feed (`Scene.holds_snapshots`).
-/
namespace FeedFanout

theorem forall_mem_middle {α : Type} {good : α → Prop} {before after : List α} {x y : α}
    (all : ∀ z ∈ before ++ x :: after, good z) (new : good y) : ∀ z ∈ before ++ y :: after, good z := by
  rw [List.forall_mem_append, List.forall_mem_cons] at all ⊢
  exact ⟨all.1, new, all.2.2⟩

/-- An errand under way. -/
structure Job where
  errand : Errand
  /-- The calls that it has made. -/
  calls : List Made
  rest : Task Unit

structure Scene where
  world : World
  /-- All calls that were made, by whichever errand. -/
  calls : List Made
  jobs : List Job
  viewers : List Live.Stream

namespace Scene

def empty (channelCapacity : Nat) (supply : Nat → PostId) : Scene := ⟨.empty channelCapacity supply, [], [], []⟩

/-- One thing happens. -/
inductive Step (s : Service) (wm : Warmer) : Scene → Scene → Prop
  | begin (errand : Errand) (w : World) (all : List Made) (jobs : List Job) (viewers : List Live.Stream) :
      Step s wm ⟨w, all, jobs, viewers⟩ ⟨w, all, ⟨errand, [], errand.task s wm⟩ :: jobs, viewers⟩
  | tell {errand : Errand} {calls : List Made} {notice : Notice} {next : Task Unit} (w : World) (all : List Made)
      (before after : List Job) (viewers : List Live.Stream) :
      Step s wm ⟨w, all, before ++ ⟨errand, calls, .tell notice next⟩ :: after, viewers⟩
        ⟨w, all, before ++ ⟨errand, calls, next⟩ :: after, viewers⟩
  | ask {errand : Errand} {calls : List Made} {call : Call} {next : call.Reply → Task Unit} {reply : call.Reply}
      {w w' : World} (falters : World.Falters w ⟨call, some reply⟩ w') (all : List Made) (before after : List Job)
      (viewers : List Live.Stream) :
      Step s wm ⟨w, all, before ++ ⟨errand, calls, .ask call next⟩ :: after, viewers⟩
        ⟨w', all ++ [⟨call, some reply⟩], before ++ ⟨errand, calls ++ [⟨call, some reply⟩], next reply⟩ :: after, viewers⟩
  | askWithin {errand : Errand} {calls : List Made} {limit : Span} {call : Call} {next : Option call.Reply → Task Unit}
      {reply : Option call.Reply} {w w' : World} (falters : World.Falters w ⟨call, reply⟩ w') (all : List Made)
      (before after : List Job) (viewers : List Live.Stream) :
      Step s wm ⟨w, all, before ++ ⟨errand, calls, .askWithin limit call next⟩ :: after, viewers⟩
        ⟨w', all ++ [⟨call, reply⟩], before ++ ⟨errand, calls ++ [⟨call, reply⟩], next reply⟩ :: after, viewers⟩
  /-- An errand is given up, or was done. -/
  | drop (job : Job) (w : World) (all : List Made) (before after : List Job) (viewers : List Live.Stream) :
      Step s wm ⟨w, all, before ++ job :: after, viewers⟩ ⟨w, all, before ++ after, viewers⟩
  | addUser (user : UserId) (w : World) (all : List Made) (jobs : List Job) (viewers : List Live.Stream) :
      Step s wm ⟨w, all, jobs, viewers⟩ ⟨{ w with graph := w.graph.addUser user }, all, jobs, viewers⟩
  | befriend (a b : UserId) (w : World) (all : List Made) (jobs : List Job) (viewers : List Live.Stream) :
      Step s wm ⟨w, all, jobs, viewers⟩ ⟨{ w with graph := w.graph.addFriendship a b }, all, jobs, viewers⟩
  /-- A viewer comes. -/
  | subscribe {user : UserId} {w : World} {stream : Live.Stream} {notifier : Live.Notifier}
      (given : w.notifier.subscribe? user = some (stream, notifier)) (all : List Made) (jobs : List Job)
      (viewers : List Live.Stream) :
      Step s wm ⟨w, all, jobs, viewers⟩ ⟨{ w with notifier }, all, jobs, stream :: viewers⟩
  | receive (stream : Live.Stream) (w : World) (all : List Made) (jobs : List Job) (before after : List Live.Stream) :
      Step s wm ⟨w, all, jobs, before ++ stream :: after⟩
        ⟨w, all, jobs, before ++ (w.notifier.receive stream).2 :: after⟩
  | leave (stream : Live.Stream) (w : World) (all : List Made) (jobs : List Job) (before after : List Live.Stream) :
      Step s wm ⟨w, all, jobs, before ++ stream :: after⟩
        ⟨{ w with notifier := w.notifier.unsubscribe stream }, all, jobs, before ++ after⟩

/-- The errand has come to its rest by calls that were made. -/
structure Along (s : Service) (wm : Warmer) (all : List Made) (job : Job) : Prop where
  goes : (job.errand.task s wm).Goes job.calls job.rest
  among : ∀ made ∈ job.calls, made ∈ all

/-- What holds at all times, of the world and of the errands in it. -/
structure Sound (s : Service) (wm : Warmer) (channelCapacity : Nat) (scene : Scene) : Prop where
  built : scene.world.graph.Built
  notifier : scene.world.notifier.Sound channelCapacity
  jobs : ∀ job ∈ scene.jobs, Along s wm scene.calls job
  known : Known scene.world scene.calls
  feeds : scene.world.Feeds s.capacity
  heard : scene.world.Heard s.capacity scene.calls
  warranted : ∀ before made after, scene.calls = before ++ made :: after → Warranted s wm before made.call

variable {s : Service} {wm : Warmer} {channelCapacity : Nat} {w w' : World} {all : List Made}
  {jobs before after : List Job} {viewers : List Live.Stream}

theorem Along.mono {more : List Made} {job : Job} (along : Along s wm all job) (larger : ∀ made ∈ all, made ∈ more) :
    Along s wm more job :=
  ⟨along.goes, fun made before => larger made (along.among made before)⟩

namespace Sound

theorem empty (supply : Nat → PostId) : Sound s wm channelCapacity (empty channelCapacity supply) := by
  refine ⟨.empty, Live.Notifier.Sound.make channelCapacity, nofun, ⟨nofun, nofun, nofun⟩, ⟨nofun, ?_⟩, nofun, ?_⟩
  · intro user
    exact Nat.zero_le _
  · intro before made after split
    simp [Scene.empty] at split

/-- Some errands may be left out, others begun. -/
theorem turn (sound : Sound s wm channelCapacity ⟨w, all, before, viewers⟩) (jobs : ∀ job ∈ after, Along s wm all job) :
    Sound s wm channelCapacity ⟨w, all, after, viewers⟩ :=
  ⟨sound.built, sound.notifier, jobs, sound.known, sound.feeds, sound.heard, sound.warranted⟩

/-- What happens without a call leaves feeds as they are. -/
theorem change (sound : Sound s wm channelCapacity ⟨w, all, jobs, viewers⟩) (grows : w.Grows w') (built : w'.graph.Built)
    (same : w'.cache = w.cache) (notifier : w'.notifier.Sound channelCapacity) (heard : w'.Heard s.capacity all)
    (others : List Live.Stream) : Sound s wm channelCapacity ⟨w', all, jobs, others⟩ :=
  ⟨built, notifier, sound.jobs, sound.known.grow grows, sound.feeds.grow grows same, heard, sound.warranted⟩

/-- An errand makes a call. -/
theorem call {errand : Errand} {calls : List Made} {rest next : Task Unit} {made : Made}
    (alike : wm.capacity = s.capacity)
    (sound : Sound s wm channelCapacity ⟨w, all, before ++ ⟨errand, calls, rest⟩ :: after, viewers⟩)
    (goes : rest.Goes [made] next) (falters : World.Falters w made w') :
    Sound s wm channelCapacity ⟨w', all ++ [made], before ++ ⟨errand, calls ++ [made], next⟩ :: after, viewers⟩ := by
  obtain ⟨built, notifier, jobs, known, feeds, heard, warranted⟩ := sound
  have larger : ∀ other ∈ all, other ∈ all ++ [made] := fun _ => List.mem_append_left _
  have along := jobs ⟨errand, calls, rest⟩ (List.mem_append_right _ List.mem_cons_self)
  have further := along.goes.trans goes
  -- The errand knows enough to make the call, and all errands together know no less.
  have now : Warranted s wm all made.call := (Errand.warranted further).mono along.among
  obtain ⟨notifier, heard⟩ := heard.call notifier known now falters
  refine ⟨?_, notifier, ?_, known.call falters, feeds.call alike built known now falters, heard, ?_⟩
  · rw [falters.graph]
    exact built
  · refine forall_mem_middle (fun job member => (jobs job member).mono larger) ⟨further, ?_⟩
    intro other member
    rcases List.mem_append.mp member with old | last
    · exact larger other (along.among other old)
    · exact List.mem_append_right _ last
  · intro first other last split
    rcases List.eq_nil_or_concat last with rfl | ⟨last, final, rfl⟩
    · obtain ⟨rfl, same⟩ := List.append_inj' split rfl
      rw [← List.singleton_inj.mp same]
      exact now
    · have split : all ++ [made] = (first ++ other :: last) ++ [final] := by simpa using split
      exact warranted first other last (List.append_inj' split rfl).1

theorem step {scene scene' : Scene} (alike : wm.capacity = s.capacity) (sound : Sound s wm channelCapacity scene)
    (step : Step s wm scene scene') : Sound s wm channelCapacity scene' := by
  cases step with
  | begin errand w all jobs viewers =>
    exact sound.turn (List.forall_mem_cons.mpr ⟨⟨.stay _, nofun⟩, sound.jobs⟩)
  | @tell errand calls notice next w all before after viewers =>
    obtain ⟨goes, among⟩ := sound.jobs ⟨errand, calls, .tell notice next⟩ (List.mem_append_right _ List.mem_cons_self)
    have further := goes.trans (.tell (.stay next))
    rw [List.append_nil] at further
    exact sound.turn (forall_mem_middle sound.jobs ⟨further, among⟩)
  | ask falters => exact sound.call alike (.ask (.stay _)) falters
  | askWithin falters => exact sound.call alike (.askWithin (.stay _)) falters
  | drop job w all before after viewers =>
    refine sound.turn ?_
    intro other member
    have kept := (List.sublist_cons_self job after).append_left before
    exact sound.jobs other (kept.subset member)
  | addUser user w =>
    have grows := w.grows_addUser user
    exact sound.change grows (.addUser user sound.built) rfl sound.notifier
      (sound.heard.grow grows rfl fun _ => id) _
  | befriend a b w =>
    have grows := w.grows_befriend a b
    exact sound.change grows (.addFriendship a b sound.built) rfl sound.notifier
      (sound.heard.grow grows rfl fun _ => id) _
  | @subscribe user w stream notifier given =>
    have subscribed := Live.Notifier.subscribed given
    have heard := sound.heard.subscribe sound.notifier subscribed
    exact sound.change (w.grows_notifier notifier) sound.built rfl (sound.notifier.subscribe subscribed) heard _
  | receive stream w => exact sound.change (World.Grows.refl w) sound.built rfl sound.notifier sound.heard _
  | leave stream w =>
    have grows := w.grows_notifier (w.notifier.unsubscribe stream)
    have heard := sound.heard.unsubscribe stream
    exact sound.change grows sound.built rfl (sound.notifier.unsubscribe stream) heard _

theorem run {scene scene' : Scene} (alike : wm.capacity = s.capacity) (sound : Sound s wm channelCapacity scene)
    (run : Relation.ReflTransGen (Step s wm) scene scene') : Sound s wm channelCapacity scene' := by
  induction run with
  | refl => exact sound
  | tail _ now ih => exact ih.step alike now

end Sound

/-- At all times feeds hold stored posts by friends, no more than there is room for, and what is on a user's topic was
pushed into the user's feed before it was published. -/
theorem holds_snapshots (s : Service) (wm : Warmer) (channelCapacity : Nat) (supply : Nat → PostId) {scene : Scene}
    (alike : wm.capacity = s.capacity)
    (run : Relation.ReflTransGen (Step s wm) (empty channelCapacity supply) scene) :
    (∀ user, ∀ entry ∈ scene.world.cache.feed user, ∃ post ∈ scene.world.log.posts,
      entry.decode = .ok post ∧ post.author ∈ scene.world.graph.friendsOf user ∧ post.author ≠ user) ∧
    (∀ user, (scene.world.cache.feed user).length ≤ s.capacity) ∧
    (∀ user number c, scene.world.notifier.topics.get? user = some number →
      scene.world.notifier.channels[number]? = some c → ∀ message ∈ c.kept, ∃ post ∈ scene.world.log.posts,
        message = post.wire ∧ Pushed s.capacity scene.calls user post) ∧
    ∀ before user post reply after, scene.calls = before ++ ⟨.publish user post, reply⟩ :: after →
      post ∈ scene.world.log.posts ∧ Pushed s.capacity before user post := by
  have sound := (Sound.empty supply).run alike run
  refine ⟨?_, sound.feeds.short, sound.heard, ?_⟩
  · intro user entry member
    obtain ⟨post, held, rfl, friend⟩ := sound.feeds.shows user entry member
    refine ⟨post, held, FeedEntry.decode_snapshot post, friend, ?_⟩
    rintro rfl
    exact sound.built.irrefl post.author friend
  · intro before user post reply after split
    have warranted : Warranted s wm before (.publish user post) := sound.warranted before _ after split
    cases warranted with
    | publish stored pushed =>
      have stored : ⟨.append post, some (.ok ())⟩ ∈ scene.calls := by
        rw [split]
        exact List.mem_append_left _ stored
      exact ⟨sound.known.stored post stored, pushed⟩
    | harmless harmless => cases harmless

/-- A post by user 8. -/
def memo : Post := ⟨.ofNat 1, .ofNat 8, "a"⟩

/-- It is created while the feed of user 7 is rebuilt, which fails in the end. -/
def aired : List Made :=
  [⟨.append memo, some (.ok ())⟩, ⟨.friendsOf (.ofNat 7), some (.ok [.ofNat 8])⟩,
    ⟨.friendsOf (.ofNat 8), some (.ok [.ofNat 7])⟩,
    ⟨.query (.ofNat 7) [.ofNat 8] (Warmer.window ⟨4, 1⟩), some (.ok [memo])⟩,
    ⟨.push (.ofNat 7) (.snapshot memo) 4, some (.ok ())⟩,
    ⟨.rebuild (.ofNat 7) [.snapshot memo] 4, some (.error (.unavailable ""))⟩,
    ⟨.publish (.ofNat 7) memo, some (.ok ())⟩]

/-- Users 7 and 8 are friends, and there is a viewer of user 7. -/
def stage : World :=
  { World.empty 1 .ofNat with
    graph := FriendGraph.empty.addFriendship (.ofNat 7) (.ofNat 8)
    notifier := ⟨1, false, .set .empty (.ofNat 7) 0, [⟨1, 0, [], 1, true⟩]⟩ }

/-- The creation and the rebuild are over. -/
def onAir : Scene where
  world := [.append memo, .push (.ofNat 7) (.snapshot memo) 4, .publish (.ofNat 7) memo].foldl
    (fun w call => (w.perform call).world) stage
  calls := aired
  jobs := []
  viewers := [.attached 0 0]

theorem run_onAir : Relation.ReflTransGen (Step { capacity := 4 } ⟨4, 1⟩) (empty 1 .ofNat) onAir := by
  have comes : (Live.Notifier.make 1).subscribe? (.ofNat 7) = some (.attached 0 0, stage.notifier) := rfl
  have fails : Simulation.Trouble.reply? (.cache (.unavailable "")) (.rebuild (.ofNat 7) [.snapshot memo] 4) =
    some (.error (.unavailable "")) := rfl
  refine .head (.befriend (.ofNat 7) (.ofNat 8) ..) (.head (.subscribe comes ..) ?_)
  refine .head (.begin (.warm (.ofNat 7)) ..) (.head (.begin (.create (.ofNat 8) memo) ..) ?_)
  -- The copies of the post are its snapshots, which is seen before the calls are matched.
  simp only [Errand.task, Service.createPost, Service.spread, Service.fanout_eq, Warmer.warmUser_eq]
  refine .head (.askWithin (.performed ..) [] [] [_] _) ?_
  refine .head (.tell _ _ [] [_] _) ?_
  refine .head (.ask (.performed ..) [_] [_] [] _) ?_
  refine .head (.askWithin (.performed ..) _ [] [_] _) ?_
  refine .head (.ask (.performed ..) _ [_] [] _) ?_
  refine .head (.askWithin (.performed ..) _ [] [_] _) ?_
  refine .head (.ask (.failed _ fails) _ [_] [] _) ?_
  refine .head (.askWithin (.performed ..) _ [] [_] _) ?_
  refine .head (.drop _ _ _ [] [_] _) ?_
  exact .single (.drop _ _ _ [] [] _)

theorem holds_snapshots_onAir :
    (∃ post ∈ onAir.world.log.posts, (FeedEntry.snapshot memo).decode = .ok post ∧
      post.author ∈ onAir.world.graph.friendsOf (.ofNat 7) ∧ post.author ≠ .ofNat 7) ∧
    Pushed 4 (aired.take 6) (.ofNat 7) memo := by
  obtain ⟨shows, -, -, announced⟩ := holds_snapshots { capacity := 4 } ⟨4, 1⟩ 1 .ofNat rfl run_onAir
  refine ⟨shows (.ofNat 7) (.snapshot memo) List.mem_cons_self, ?_⟩
  exact (announced (aired.take 6) (.ofNat 7) memo (some (.ok ())) [] rfl).2

end Scene
end FeedFanout
