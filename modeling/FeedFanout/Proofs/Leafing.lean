import FeedFanout.Proofs.Agreement
import FeedFanout.Proofs.Faults

/-!
Leafing through a feed. A reader asks for one page after the other, all of one size, until a page is empty. The first
pages may come from the cache and the later ones from the store; put together they are all posts of the user's friends,
each once and in order (`pages_join`).
-/
namespace FeedFanout

theorem Acts.exact {s : Service} {wm : Warmer} {w w' : World} (running : w.notifier.isClosed = false)
    (acts : Acts s wm w w') (exact : w.log.Exact) : w'.log.Exact := by
  cases acts with
  | @create author post answer ends =>
    have ran := Task.ends_serves_iff.mp ends
    rw [s.run_createPost running] at ran
    split at ran
    · cases ran; exact exact
    · split at ran
      · cases ran; exact exact
      · cases ran
        obtain ⟨notifier, posted, -⟩ := s.posted_eq running post
        rw [posted]
        exact World.exact_stored exact ‹_›
  | @warmUser user answer ends =>
    have ran := Task.ends_serves_iff.mp ends
    rw [wm.run_warmUser] at ran
    cases ran
    exact exact
  | warmAll ends =>
    obtain ⟨⟨cache, rfl⟩, -, -⟩ := Warmer.ends_warmAll (ends.mono World.Serves.suffers)
    exact exact
  | read ends =>
    have ran := Task.ends_serves_iff.mp ends
    rw [s.run_feedPage] at ran
    cases ran
    exact exact

/-- A state in which every feed holds what it should, and no identifier is used twice. -/
structure Tidy (s : Service) (w : World) : Prop extends Kept s (fun _ => True) w where
  exact : w.log.Exact

namespace Tidy
variable {s : Service} {wm : Warmer} {w w' : World}

/-- Operations from empty stores lead to such states. -/
theorem of_acts (same : wm.capacity = s.capacity) (bounded : s.capacity ≤ Window.largest) (built : w.graph.Built)
    (running : w.notifier.isClosed = false) (unwritten : w.log = .empty) (unread : w.cache = .empty)
    (acts : Relation.ReflTransGen (Acts s wm) w w') : Tidy s w' := by
  induction acts with
  | refl => exact ⟨.begun same bounded (.empty built running unwritten unread), by rw [unwritten]; exact .empty⟩
  | tail _ last ih => exact ⟨ih.acts same bounded last, last.exact ih.running ih.exact⟩

/-- Every window shows the posts that the store would show. -/
theorem page (tidy : Tidy s w) (user : UserId) (window : Window) :
    (s.feedPage user window).run w =
      (.ok ⟨window.select (w.log.byAuthors (w.graph.friendsOf user)), s.origin w user window⟩, w) := by
  by_cases cached : window.fits s.capacity = true ∧ w.cache.has user = true
  · obtain ⟨fits, has⟩ := cached
    obtain ⟨feed, there⟩ := Option.isSome_iff_exists.mp has
    have held := tidy.held user trivial
    rw [FeedCache.feed, there, Option.getD_some] at held
    subst held
    rw [s.feedPage_cached there fits, Service.origin, fits, has]
    rfl
  · rw [s.run_feedPage, if_neg cached, Service.origin, if_neg (by simpa using cached)]
    rfl

end Tidy

/-- The pages of one size that a reader gets from some offset on, up to the first that is empty. -/
inductive Service.Leafs (s : Service) (w : World) (user : UserId) (size : Bound) : Bound → List FeedPage → Prop
  | last {offset : Bound} {page : FeedPage} (read : (s.feedPage user (.of size offset)).run w = (.ok page, w))
      (ended : page.posts = []) : Leafs s w user size offset [page]
  | more {offset next : Bound} {page : FeedPage} {pages : List FeedPage}
      (read : (s.feedPage user (.of size offset)).run w = (.ok page, w)) (going : page.posts ≠ [])
      (further : next.val = offset.val + size.val) (rest : Leafs s w user size next pages) :
      Leafs s w user size offset (page :: pages)

namespace Tidy
variable {s : Service} {wm : Warmer} {w w' : World} {user : UserId} {size : Bound}

/-- A page read shows the posts behind its offset. It comes from the cache if it ends before the capacity and the feed is
there. -/
theorem read (tidy : Tidy s w) {offset : Bound} {page : FeedPage}
    (read : (s.feedPage user (.of size offset)).run w = (.ok page, w)) :
    page.posts = ((w.log.byAuthors (w.graph.friendsOf user)).drop offset.val).take size.val ∧
      (page.source = .cache ↔ offset.val + size.val < s.capacity ∧ w.cache.has user = true) := by
  rw [tidy.page] at read
  cases read
  have fits : (Window.of size offset).fits s.capacity = true ↔ offset.val + size.val < s.capacity := by
    simp [Window.fits_iff, Window.of, Window.start]
  refine ⟨rfl, ?_⟩
  simp [Service.origin, fits]

theorem readable (tidy : Tidy s w) (user : UserId) (size offset : Bound) :
    ∃ page, (s.feedPage user (.of size offset)).run w = (.ok page, w) :=
  ⟨_, tidy.page user (.of size offset)⟩

/-- From every offset a reader comes to an empty page, before the offsets run out. -/
theorem exists_leafs (tidy : Tidy s w) (positive : 0 < size.val)
    (room : (w.log.byAuthors (w.graph.friendsOf user)).length + size.val ≤ Window.largest) (offset : Bound) :
    ∃ pages, s.Leafs w user size offset pages := by
  generalize left : (w.log.byAuthors (w.graph.friendsOf user)).length - offset.val = n
  induction n using Nat.strongRecOn generalizing offset with
  | ind n ih =>
    obtain ⟨page, read⟩ := tidy.readable user size offset
    by_cases ended : page.posts = []
    · exact ⟨[page], .last read ended⟩
    have posts := (tidy.read read).1
    have inside : offset.val < (w.log.byAuthors (w.graph.friendsOf user)).length := by
      by_contra beyond
      rw [List.drop_of_length_le (by omega), List.take_nil] at posts
      exact ended posts
    have small : offset.val + size.val < 2 ^ 32 := by
      simp only [Window.largest] at room
      omega
    obtain ⟨next, further⟩ : ∃ next : Bound, next.val = offset.val + size.val := ⟨⟨_, small⟩, rfl⟩
    obtain ⟨pages, rest⟩ := ih _ (by omega) next rfl
    exact ⟨page :: pages, .more read ended further rest⟩

/-- The pages from an offset on join to the posts behind it. -/
theorem flatMap_leafs (tidy : Tidy s w) (positive : 0 < size.val) {offset : Bound} {pages : List FeedPage}
    (leafs : s.Leafs w user size offset pages) :
    pages.flatMap (·.posts) = (w.log.byAuthors (w.graph.friendsOf user)).drop offset.val := by
  induction leafs with
  | @last offset page read ended =>
    have posts := (tidy.read read).1
    rw [ended, eq_comm, List.take_eq_nil_iff] at posts
    obtain none | nothing := posts
    · omega
    · simp [ended, nothing]
  | @more offset next page pages read going further rest ih =>
    rw [List.flatMap_cons, ih, (tidy.read read).1, further, ← List.drop_drop, List.take_append_drop]

/-- Where each of the pages from an offset on came from. -/
theorem source_leafs (tidy : Tidy s w) {offset : Bound} {pages : List FeedPage}
    (leafs : s.Leafs w user size offset pages) {i : Nat} {page : FeedPage} (found : pages[i]? = some page) :
    page.source = .cache ↔ offset.val + (i + 1) * size.val < s.capacity ∧ w.cache.has user = true := by
  induction leafs generalizing i with
  | @last offset only read ended =>
    obtain ⟨rfl, rfl⟩ : i = 0 ∧ only = page := by
      cases i with
      | zero => simpa using found
      | succ i => simp at found
    simpa using (tidy.read read).2
  | @more offset next first pages read going further rest ih =>
    cases i with
    | zero =>
      obtain rfl : first = page := by simpa using found
      simpa using (tidy.read read).2
    | succ i =>
      have ends : next.val + (i + 1) * size.val = offset.val + (i + 1 + 1) * size.val := by
        rw [further, Nat.succ_mul (i + 1)]
        omega
      rw [ih (by simpa using found), ends]

end Tidy

/-- The pages of one size, put together up to the first empty one, are all posts that a request for everything shows,
and none comes twice. A page comes from the cache exactly if it ends before the capacity and the feed is there. -/
theorem pages_join {s : Service} {wm : Warmer} (same : wm.capacity = s.capacity) (bounded : s.capacity ≤ Window.largest)
    {w w' : World} (built : w.graph.Built) (running : w.notifier.isClosed = false) (unwritten : w.log = .empty)
    (unread : w.cache = .empty) (acts : Relation.ReflTransGen (Acts s wm) w w') (user : UserId) {size : Bound}
    (positive : 0 < size.val)
    (room : (w'.log.byAuthors (w'.graph.friendsOf user)).length + size.val ≤ Window.largest) :
    ∃ posts, (s.feedPage user .all).run w' = (.ok ⟨posts, .store⟩, w') ∧ (posts.map (·.id)).Nodup ∧
      (∃ pages, s.Leafs w' user size 0 pages) ∧
      ∀ pages, s.Leafs w' user size 0 pages → pages.flatMap (·.posts) = posts ∧
        ∀ i page, pages[i]? = some page →
          (page.source = .cache ↔ (i + 1) * size.val < s.capacity ∧ w'.cache.has user = true) := by
  have tidy : Tidy s w' := .of_acts same bounded built running unwritten unread acts
  have distinct : ((w'.log.byAuthors (w'.graph.friendsOf user)).map (·.id)).Nodup :=
    tidy.exact.distinct.sublist (List.filter_sublist.map _)
  refine ⟨w'.log.byAuthors (w'.graph.friendsOf user), tidy.page user .all, distinct,
    tidy.exists_leafs positive room 0, ?_⟩
  intro pages leafs
  refine ⟨by simpa using tidy.flatMap_leafs positive leafs, ?_⟩
  intro i page found
  simpa using tidy.source_leafs leafs found

/-- Three posts in a store, of which a feed keeps two, in pages of one. -/
theorem pages_join_seam :
    let s : Service := { capacity := 2 }
    let post (n : Nat) : Post := ⟨.ofNat n, .ofNat 8, "a"⟩
    let create (w : World) (n : Nat) : World := ((s.createPost (.ofNat 8) (post n)).run w).2
    let w : World := { World.empty 1 .ofNat with graph := FriendGraph.empty.addFriendship (.ofNat 7) (.ofNat 8) }
    let w' := create (create (create w 1) 2) 3
    Relation.ReflTransGen (Acts s ⟨2, 1⟩) w w' ∧ ∃ pages, s.Leafs w' (.ofNat 7) 1 0 pages ∧
      pages.flatMap (·.posts) = [post 3, post 2, post 1] ∧
      ∀ i page, pages[i]? = some page → (page.source = .cache ↔ i = 0) := by
  intro s post create w w'
  have created (w : World) (n : Nat) : Acts s ⟨2, 1⟩ w (create w n) := .create (Task.ends_run ..)
  have acts : Relation.ReflTransGen (Acts s ⟨2, 1⟩) w w' :=
    ((Relation.ReflTransGen.single (created w 1)).tail (created _ 2)).tail (created _ 3)
  have built : w.graph.Built := .addFriendship (.ofNat 7) (.ofNat 8) .empty
  have stored : w'.log.byAuthors (w'.graph.friendsOf (.ofNat 7)) = [post 3, post 2, post 1] := by decide +kernel
  have cached : w'.cache.has (.ofNat 7) = true := by decide +kernel
  clear_value w'
  have positive : 0 < (1 : Bound).val := by decide
  obtain ⟨posts, whole, -, ⟨pages, leafs⟩, joined⟩ :=
    pages_join rfl (by decide) built rfl rfl rfl acts (.ofNat 7) positive (by rw [stored]; decide)
  have everything : posts = [post 3, post 2, post 1] := by
    rw [s.feedPage_unfit rfl] at whole
    cases whole
    exact stored
  obtain ⟨all, sources⟩ := joined pages leafs
  refine ⟨acts, pages, leafs, all.trans everything, ?_⟩
  intro i page found
  have edge : (i + 1) * 1 < 2 ↔ i = 0 := by omega
  rw [sources i page found, cached]
  exact ⟨fun inside => edge.mp inside.1, fun first => ⟨edge.mpr first, rfl⟩⟩

end FeedFanout
