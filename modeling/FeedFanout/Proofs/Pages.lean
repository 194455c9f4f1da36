import FeedFanout.Proofs.Interference
import FeedFanout.Proofs.Reading

/-!
What a page is, whatever others do meanwhile. One that comes from the cache shows what its window has of the feed at the
moment of the read, and nothing else; any other is what friends and their posts come to (`Service.lookup`). Asking for a
page changes nothing (`Service.feedPage_amid`).
-/
namespace FeedFanout

/-- The call goes to the cache of feeds. -/
def Call.toCache : Call → Bool
  | .exists _ | .read .. | .push .. | .prepend .. | .trim .. | .rebuild .. => true
  | _ => false

theorem World.meet_congr {w w' : World} {call : Call} (same : (w'.perform call).reply = (w.perform call).reply)
    (fate : Fate) : (w'.meet call fate).1 = (w.meet call fate).1 := by
  cases fate with
  | served => exact congrArg some same
  | unanswered => rfl
  | refused trouble =>
    unfold World.meet
    dsimp only
    cases trouble.reply? call with
    | none => exact congrArg some same
    | some reply => rfl

namespace Service
variable {s : Service} {user : UserId} {window : Window} {fate : Call → Fate} {others : Nat → World → World} {w : World}

/-! ### The calls of a page -/

/-- What follows when the store was asked for posts. -/
def queried (s : Service) (user : UserId) : Option (Except StoreError (List Post)) → Task (Except FeedError FeedPage)
  | none => .done (.error (.timeout .query s.limit))
  | some (.error e) => .done (.error (.storageUnavailable e))
  | some (.ok posts) => served user ⟨posts, .store⟩

/-- What follows when a user's friends were asked for. -/
def befriended (s : Service) (user : UserId) (window : Window) :
    Option (Except StoreError (List UserId)) → Task (Except FeedError FeedPage)
  | none => .done (.error (.timeout .friends s.limit))
  | some (.error e) => .done (.error (.friendGraphUnavailable user e))
  | some (.ok friends) => .askWithin s.limit (.query user friends window) (s.queried user)

theorem readStored_eq (s : Service) (user : UserId) (window : Window) :
    s.readStored user window = .askWithin s.limit (.friendsOf user) (s.befriended user window) := by
  change Task.askWithin _ _ _ = _
  congr
  funext reply
  obtain _ | e | friends := reply
  · rfl
  · rfl
  · change Task.askWithin _ _ _ = _
    rw [befriended]
    congr
    funext reply
    obtain _ | e | posts := reply <;> rfl

/-- What follows when the cache has failed. -/
def degraded (s : Service) (user : UserId) (window : Window) (reason : String) : Task (Except FeedError FeedPage) :=
  .tell (.remark (.cacheUnavailable user reason)) <| .tell (.event (.degraded user)) (s.readStored user window)

/-- What follows when a cached feed was read. -/
def read (s : Service) (user : UserId) (window : Window) :
    Option (Except CacheError (List FeedEntry)) → Task (Except FeedError FeedPage)
  | none => s.degraded user window (FeedError.timeout .read s.limit).message
  | some (.error e) => s.degraded user window e.message
  | some (.ok entries) =>
    match decodeAll entries with
    | .error e => .done (.error (.corruptEntry e))
    | .ok posts => served user ⟨posts, .cache⟩

/-- What follows when the cache was asked whether there is a feed. -/
def found (s : Service) (user : UserId) (window : Window) :
    Option (Except CacheError Bool) → Task (Except FeedError FeedPage)
  | none => s.degraded user window (FeedError.timeout .exists s.limit).message
  | some (.error e) => s.degraded user window e.message
  | some (.ok false) => s.readStored user window
  | some (.ok true) => .askWithin s.limit (.read user window.start window.limit) (s.read user window)

theorem feedPage_eq (fits : window.fits s.capacity = true) (user : UserId) :
    s.feedPage user window = .askWithin s.limit (.exists user) (s.found user window) := by
  rw [feedPage, if_pos fits]
  change Task.askWithin _ _ _ = _
  congr
  funext reply
  obtain _ | e | _ | _ := reply
  · rfl
  · rfl
  · rfl
  · change Task.askWithin _ _ _ = _
    rw [found]
    congr
    funext reply
    obtain _ | e | entries := reply
    · rfl
    · rfl
    · simp only [Task.done_bind, Task.pure_eq, read]
      cases decodeAll entries <;> rfl

/-! ### Friends and their posts -/

/-- The page that comes of asking for a user's friends, and then for their posts. -/
def lookup (s : Service) (user : UserId) (window : Window) (fate : Call → Fate) (first second : World) :
    Except FeedError FeedPage :=
  match (first.meet (.friendsOf user) (fate (.friendsOf user))).1 with
  | none => .error (.timeout .friends s.limit)
  | some (.error e) => .error (.friendGraphUnavailable user e)
  | some (.ok friends) =>
    match (second.meet (.query user friends window) (fate (.query user friends window))).1 with
    | none => .error (.timeout .query s.limit)
    | some (.error e) => .error (.storageUnavailable e)
    | some (.ok posts) => .ok ⟨posts, .store⟩

/-- What is told of a page. -/
def heard (user : UserId) : Except FeedError FeedPage → List Event
  | .error _ => []
  | .ok page => [.served user page.source page.posts.length]

/-- A course without calls to the cache, its answer, and what it tells. -/
structure Uncached (user : UserId) (result : Except FeedError FeedPage) (course : Course (Except FeedError FeedPage)) :
    Prop where
  answer : course.answer = some result
  events : course.events = heard user result
  calls : ∀ made ∈ course.calls, made.call.toCache = false

theorem Uncached.call {result : Except FeedError FeedPage} {course : Course (Except FeedError FeedPage)}
    (uncached : Uncached user result course) {made : Made} (other : made.call.toCache = false) :
    Uncached user result (course.call made) :=
  { uncached with calls := List.forall_mem_cons.mpr ⟨other, uncached.calls⟩ }

/-- A page from the store is what a lookup comes to. The worlds are those of its two calls. -/
theorem amid_readStored (s : Service) (user : UserId) (window : Window) (fate : Call → Fate)
    (others : Nat → World → World) (w : World) :
    Uncached user (s.lookup user window fate (.passing others 1 w) (.passing others 2 w))
      ((s.readStored user window).amid fate others w) := by
  rw [readStored_eq, Task.amid_reads (.friendsOf user) trivial]
  change Uncached user (s.lookup user window fate (others 0 w) (others 1 (others 0 w))) _
  refine Uncached.call ?_ rfl
  rw [lookup]
  generalize ((others 0 w).meet (.friendsOf user) (fate (.friendsOf user))).1 = reply
  obtain _ | e | friends := reply
  · exact ⟨rfl, rfl, List.forall_mem_nil _⟩
  · exact ⟨rfl, rfl, List.forall_mem_nil _⟩
  rw [befriended, Task.amid_reads (.query user friends window) trivial]
  refine Uncached.call ?_ rfl
  dsimp only
  generalize ((others 1 (others 0 w)).meet (.query user friends window) (fate (.query user friends window))).1 = reply
  obtain _ | e | posts := reply <;> exact ⟨rfl, rfl, List.forall_mem_nil _⟩

/-- A lookup depends on the store and the graph alone. -/
theorem lookup_congr {w' : World} {fate' : Call → Fate} (log : w'.log = w.log) (graph : w'.graph = w.graph)
    (same : ∀ call, call.toCache = false → fate' call = fate call) :
    s.lookup user window fate' w' w' = s.lookup user window fate w w := by
  have friends : (w'.meet (.friendsOf user) (fate' (.friendsOf user))).1 =
      (w.meet (.friendsOf user) (fate (.friendsOf user))).1 := by
    rw [same _ rfl]
    exact World.meet_congr (by simp only [World.perform, graph]) _
  have posts (friends : List UserId) : (w'.meet (.query user friends window) (fate' (.query user friends window))).1 =
      (w.meet (.query user friends window) (fate (.query user friends window))).1 := by
    rw [same _ rfl]
    exact World.meet_congr (by simp only [World.perform, log]) _
  simp only [lookup, friends, posts]

/-! ### Pages from the cache -/

/-- What entries come to as a page: all of their posts, or the error of the first that cannot be decoded. -/
def Shows (entries : List FeedEntry) : Except FeedError FeedPage → Prop
  | .ok page => page.source = .cache ∧ entries.map FeedEntry.decode = page.posts.map .ok
  | .error error => ∃ (e : CacheError) (posts : List Post) (rest : List (Except CacheError Post)),
    error = .corruptEntry e ∧ entries.map FeedEntry.decode = posts.map .ok ++ .error e :: rest

/-- Entries that can all be decoded show nothing but their posts. -/
theorem Shows.eq_ok {entries : List FeedEntry} {result : Except FeedError FeedPage} (shows : Shows entries result)
    {posts : List Post} (all : entries.map FeedEntry.decode = posts.map .ok) : result = .ok ⟨posts, .cache⟩ := by
  cases result with
  | ok page =>
    obtain ⟨held, source⟩ := page
    obtain ⟨rfl, same⟩ := shows
    have injective : Function.Injective (Except.ok : Post → Except CacheError Post) := fun _ _ => Except.ok.inj
    rw [injective.list_map (all.symm.trans same)]
  | error error =>
    obtain ⟨e, early, rest, -, split⟩ := shows
    have bad : (.error e : Except CacheError Post) ∈ posts.map .ok := by
      rw [← all, split]
      simp
    simp at bad

/-- The page that comes of a read. -/
def cachedPage (entries : List FeedEntry) : Except FeedError FeedPage :=
  match decodeAll entries with
  | .error e => .error (.corruptEntry e)
  | .ok posts => .ok ⟨posts, .cache⟩

theorem shows_cachedPage (entries : List FeedEntry) : Shows entries (cachedPage entries) := by
  unfold cachedPage
  induction entries with
  | nil => exact ⟨rfl, rfl⟩
  | cons entry entries ih =>
    unfold decodeAll
    cases decoded : entry.decode with
    | error e => exact ⟨e, [], entries.map FeedEntry.decode, rfl, by rw [List.map_cons, decoded]; rfl⟩
    | ok post =>
      cases later : decodeAll entries with
      | error e =>
        rw [later] at ih
        obtain ⟨_, posts, rest, ⟨⟩, split⟩ := ih
        exact ⟨e, post :: posts, rest, rfl, by rw [List.map_cons, decoded, split]; rfl⟩
      | ok posts =>
        rw [later] at ih
        obtain ⟨-, all⟩ := ih
        exact ⟨rfl, by rw [List.map_cons, decoded, all]; rfl⟩

/-- A page of a cached feed is read from it at once. -/
theorem amid_cached (fits : window.fits s.capacity = true) (answers : ∀ call, call.toCache = true → fate call = .served)
    (cached : (World.passing others 1 w).cache.has user = true) :
    ((s.feedPage user window).amid fate others w).answer =
        some (cachedPage (window.select ((World.passing others 2 w).cache.feed user))) ∧
      ∀ made ∈ ((s.feedPage user window).amid fate others w).calls, made.call.toCache = true := by
  have first : ((others 0 w).meet (.exists user) (fate (.exists user))).1 = some (.ok true) := by
    rw [answers _ rfl]
    exact congrArg (some ∘ Except.ok) cached
  have second : ((others 1 (others 0 w)).meet (.read user window.start window.limit)
      (fate (.read user window.start window.limit))).1 =
        some (.ok (window.select ((World.passing others 2 w).cache.feed user))) := by
    rw [answers _ rfl]
    rfl
  rw [feedPage_eq fits, Task.amid_reads (.exists user) trivial, first, found,
    Task.amid_reads (.read user window.start window.limit) trivial, second, read, cachedPage]
  cases decodeAll (window.select ((World.passing others 2 w).cache.feed user)) with
  | error e => exact ⟨rfl, List.forall_mem_cons.mpr ⟨rfl, List.forall_mem_singleton.mpr rfl⟩⟩
  | ok posts => exact ⟨rfl, List.forall_mem_cons.mpr ⟨rfl, List.forall_mem_singleton.mpr rfl⟩⟩

/-- Without a cached feed the page comes from the store. -/
theorem amid_absent (fits : window.fits s.capacity = true) (answers : ∀ call, call.toCache = true → fate call = .served)
    (absent : (World.passing others 1 w).cache.has user = false) :
    (s.feedPage user window).amid fate others w =
      ((s.readStored user window).amid fate (fun i => others (i + 1)) (others 0 w)).call
        ⟨.exists user, some (.ok false)⟩ := by
  have first : ((others 0 w).meet (.exists user) (fate (.exists user))).1 = some (.ok false) := by
    rw [answers _ rfl]
    exact congrArg (some ∘ Except.ok) absent
  rw [feedPage_eq fits, Task.amid_reads (.exists user) trivial, first, found]

/-- A page amid others, where the cache answers in time. If the window fits and there is a cached feed, the page shows
those entries of the feed that are in the window at the moment of the read. No other entry matters, and nobody but the
cache is asked. In the other cases the page is what friends and their posts come to. Asking for a page changes
nothing. -/
theorem feedPage_amid (s : Service) (user : UserId) (window : Window) {fate : Call → Fate}
    (answers : ∀ call, call.toCache = true → fate call = .served) (others : Nat → World → World) (w : World) :
    let course := (s.feedPage user window).amid fate others w
    let met (n : Nat) := World.passing others n w
    course.world = met course.calls.length ∧
      (∀ limit, window.limit = some limit → window.start + limit.val < s.capacity →
        let range (feed : List FeedEntry) := (feed.drop window.start).take limit.val
        ((met 1).cache.has user = true →
          (∀ made ∈ course.calls, made.call.toCache = true) ∧
            (∃ result, course.answer = some result ∧ Shows (range ((met 2).cache.feed user)) result) ∧
            ∀ (others' : Nat → World → World) (w' : World), (World.passing others' 1 w').cache.has user = true →
              range ((World.passing others' 2 w').cache.feed user) = range ((met 2).cache.feed user) →
                ((s.feedPage user window).amid fate others' w').answer = course.answer) ∧
        ((met 1).cache.has user = false → course.answer = some (s.lookup user window fate (met 2) (met 3)))) ∧
      ((∀ limit, window.limit = some limit → s.capacity ≤ window.start + limit.val) →
        course.answer = some (s.lookup user window fate (met 1) (met 2))) := by
  intro course met
  refine ⟨(s.reads_feedPage user window).leaves fate others w, ?_, ?_⟩
  · intro limit bounded inside range
    have fits : window.fits s.capacity = true := Window.fits_iff.mpr ⟨limit, bounded, inside⟩
    have select (feed : List FeedEntry) : window.select feed = range feed := Window.select_eq bounded feed
    refine ⟨?_, ?_⟩
    · intro cached
      obtain ⟨answer, calls⟩ := amid_cached fits answers cached
      rw [select] at answer
      refine ⟨calls, ⟨_, answer, shows_cachedPage _⟩, ?_⟩
      intro others' w' cached' same
      rw [(amid_cached fits answers cached').1, select, same]
      exact answer.symm
    · intro absent
      simp only [course, amid_absent fits answers absent]
      exact (s.amid_readStored user window fate (fun i => others (i + 1)) (others 0 w)).answer
  · intro large
    have unfit : ¬window.fits s.capacity = true := by
      rintro fits
      obtain ⟨limit, bounded, inside⟩ := Window.fits_iff.mp fits
      exact absurd inside (Nat.not_lt.mpr (large limit bounded))
    simp only [course, feedPage, if_neg unfit]
    exact (s.amid_readStored user window fate others w).answer

/-- A post comes into the feed between the two calls, and the entry behind the window cannot be decoded. -/
theorem feedPage_amid_pushed :
    let fate : Call → Fate := fun _ => .served
    let older : Post := ⟨.ofNat 10, .ofNat 5, "a"⟩
    let newer : Post := ⟨.ofNat 11, .ofNat 5, "b"⟩
    let others : Nat → World → World
      | 0, w => { w with cache := (w.cache.push (.ofNat 1) ⟨.empty⟩ 9).push (.ofNat 1) (.snapshot older) 9 }
      | _, w => { w with cache := w.cache.push (.ofNat 1) (.snapshot newer) 9 }
    (∀ call : Call, call.toCache = true → fate call = .served) ∧
      ((feedPage {} (.ofNat 1) (.of 2 0)).amid fate others (.empty 2 .ofNat)).answer =
        some (.ok ⟨[newer, older], .cache⟩) := by
  intro fate older newer others
  have answers : ∀ call : Call, call.toCache = true → fate call = .served := fun _ _ => rfl
  refine ⟨answers, ?_⟩
  obtain ⟨-, fits, -⟩ := feedPage_amid {} (.ofNat 1) (.of 2 0) answers others (.empty 2 .ofNat)
  obtain ⟨-, ⟨result, answer, shows⟩, -⟩ := (fits 2 rfl (by decide)).1 rfl
  rw [answer]
  change Shows [.snapshot newer, .snapshot older] result at shows
  have all : [FeedEntry.snapshot newer, .snapshot older].map FeedEntry.decode = [newer, older].map .ok := by
    simp [FeedEntry.decode_snapshot]
  rw [shows.eq_ok all]

end Service
end FeedFanout
