import FeedFanout.Proofs.Reading

/-!
Windows as they are asked for. A limit and an offset in range make the window that has them as its sentinels
(`ofRaw_eq_ok_iff`), and of others the first that is out of range is blamed (`ofRaw_eq_error_iff`). A window that fits
a capacity shows the same of a list and of as many of its first elements (`Window.checked`), and a window joins the one
behind it (`select_append`).
-/
namespace FeedFanout.Window

/-- A limit or offset that some window has, as it is asked for. -/
def InRange (raw : Option Int) : Prop := ∀ value, raw = some value → -1 ≤ value ∧ value ≤ 2 ^ 32 - 1

/-- What is said of a limit or offset that no window has. -/
inductive Blamed (field : String) : Option Int → WindowError → Prop
  | negative {value : Int} (below : value < -1) : Blamed field (some value) (.negative field value)
  | outOfRange {value : Int} (above : 2 ^ 32 ≤ value) : Blamed field (some value) (.outOfRange field value)

variable {field : String} {raw : Option Int} {bound : Option Bound} {e : WindowError}

/-! ### One of the two -/

/-- What is missing counts as unspecified. -/
theorem component_getD (field : String) (raw : Option Int) :
    component field (some (raw.getD unspecified)) = component field raw := by
  cases raw <;> rfl

theorem component_sentinel (field : String) (bound : Option Bound) :
    component field (some (sentinel bound)) = .ok bound := by
  cases bound with
  | none => rfl
  | some b =>
    have given : ((b.val : Int) = unspecified) = False := eq_false (by unfold unspecified; omega)
    have above : ((b.val : Int) < 0) = False := eq_false (by omega)
    simp [component, sentinel, given, above]

theorem Blamed.component_eq (blamed : Blamed field raw e) : component field raw = .error e := by
  cases blamed with
  | @negative value below =>
    have given : value ≠ unspecified := by unfold unspecified; omega
    have negative : value < 0 := by omega
    simp [component, given, negative]
  | @outOfRange value above =>
    have given : value ≠ unspecified := by unfold unspecified; omega
    have positive : ¬value < 0 := by omega
    have large : ¬value.toNat < 2 ^ 32 := by omega
    simp only [component, given, positive, large, if_false, dif_neg, not_false_eq_true]

/-- In range are the sentinels, and what is missing. -/
theorem inRange_iff : InRange raw ↔ ∃ bound, sentinel bound = raw.getD unspecified := by
  cases raw with
  | none => exact iff_of_true nofun ⟨none, rfl⟩
  | some value =>
    constructor
    · intro inRange
      obtain ⟨low, high⟩ := inRange value rfl
      by_cases given : value = unspecified
      · exact ⟨none, given.symm⟩
      · have positive : 0 ≤ value := by unfold unspecified at given; omega
        exact ⟨some ⟨value.toNat, by omega⟩, Int.toNat_of_nonneg positive⟩
    · rintro ⟨bound, same⟩ value' ⟨⟩
      change sentinel bound = value at same
      subst same
      cases bound with
      | none => exact ⟨by decide, by decide⟩
      | some b =>
        have small := b.isLt
        change -1 ≤ (b.val : Int) ∧ (b.val : Int) ≤ 2 ^ 32 - 1
        omega

theorem exists_blamed (field : String) (outside : ¬InRange raw) : ∃ e, Blamed field raw e := by
  cases raw with
  | none => exact absurd nofun outside
  | some value =>
    by_cases below : value < -1
    · exact ⟨_, .negative below⟩
    · refine ⟨_, .outOfRange ?_⟩
      by_contra above
      refine outside ?_
      rintro _ ⟨⟩
      omega

/-- A bound is made of what its sentinel is, or of what is missing. -/
theorem component_eq_ok_iff : component field raw = .ok bound ↔ sentinel bound = raw.getD unspecified := by
  constructor
  · intro made
    by_cases inRange : InRange raw
    · obtain ⟨other, same⟩ := inRange_iff.mp inRange
      rw [← component_getD, ← same, component_sentinel] at made
      cases made
      exact same
    · obtain ⟨e, blamed⟩ := exists_blamed field inRange
      cases blamed.component_eq.symm.trans made
  · intro same
    rw [← component_getD, ← same, component_sentinel]

theorem component_eq_error_iff : component field raw = .error e ↔ Blamed field raw e := by
  refine ⟨?_, Blamed.component_eq⟩
  intro refused
  by_cases inRange : InRange raw
  · obtain ⟨bound, same⟩ := inRange_iff.mp inRange
    cases (component_eq_ok_iff.mpr same).symm.trans refused
  · obtain ⟨other, blamed⟩ := exists_blamed field inRange
    cases blamed.component_eq.symm.trans refused
    exact blamed

/-! ### Both -/

variable {limit offset : Option Int} {window : Window}

theorem ofRaw_eq_ok_iff : ofRaw limit offset = .ok window ↔
    sentinel window.limit = limit.getD unspecified ∧ sentinel window.offset = offset.getD unspecified := by
  rw [← @component_eq_ok_iff "limit", ← @component_eq_ok_iff "offset", ofRaw]
  obtain ⟨bound, start⟩ := window
  cases component "limit" limit with
  | error e => simp [bind, Except.bind]
  | ok bound => cases component "offset" offset <;> simp [bind, Except.bind, pure, Except.pure]

/-- The limit is looked at first. -/
theorem ofRaw_eq_error_iff : ofRaw limit offset = .error e ↔
    Blamed "limit" limit e ∨ InRange limit ∧ Blamed "offset" offset e := by
  rw [← component_eq_error_iff, ← component_eq_error_iff, ofRaw, inRange_iff]
  simp only [← @component_eq_ok_iff "limit"]
  cases component "limit" limit with
  | error e => simp [bind, Except.bind]
  | ok bound => cases component "offset" offset <;> simp [bind, Except.bind, pure, Except.pure]

theorem exists_ofRaw_iff : (∃ window, ofRaw limit offset = .ok window) ↔ InRange limit ∧ InRange offset := by
  simp only [ofRaw_eq_ok_iff, inRange_iff]
  constructor
  · rintro ⟨⟨bound, start⟩, same, same'⟩
    exact ⟨⟨bound, same⟩, ⟨start, same'⟩⟩
  · rintro ⟨⟨bound, same⟩, ⟨start, same'⟩⟩
    exact ⟨⟨bound, start⟩, same, same'⟩

/-- A window and the one behind it show what both show together. -/
theorem select_append {α : Type} {first second both offset next : Bound} (sum : both.val = first.val + second.val)
    (behind : next.val = offset.val + first.val) (xs : List α) :
    (of first offset).select xs ++ (of second next).select xs = (of both offset).select xs := by
  change (xs.drop offset.val).take first.val ++ (xs.drop next.val).take second.val = (xs.drop offset.val).take both.val
  rw [behind, sum, List.take_add, List.drop_drop]

/-- What there is to say of checks on windows. A limit and an offset are accepted exactly if each is missing, unspecified
or in range. The window made of them has them as its sentinels, with unspecified for what is missing, and of the
sentinels of a window the same window is made. Otherwise the limit is blamed first, and the offset if the limit is in
range. A window fits a capacity exactly if it is bounded and ends before it, where its end is never cut off, and then
it shows of every list what it shows of as many of its first elements. -/
theorem checked :
    (∀ limit offset : Option Int,
      ((∃ window, ofRaw limit offset = .ok window) ↔ InRange limit ∧ InRange offset) ∧
      (∀ e, ofRaw limit offset = .error e ↔ Blamed "limit" limit e ∨ InRange limit ∧ Blamed "offset" offset e) ∧
      ∀ window, ofRaw limit offset = .ok window ↔
        sentinel window.limit = limit.getD (-1) ∧ sentinel window.offset = offset.getD (-1)) ∧
    ∀ window : Window,
      ofRaw (some (sentinel window.limit)) (some (sentinel window.offset)) = .ok window ∧
      (∀ capacity, window.fits capacity = true ↔
        ∃ limit, window.limit = some limit ∧ window.start + limit.val < capacity) ∧
      (window.stop = window.limit.map fun limit => window.start + limit.val) ∧
      ∀ capacity, window.fits capacity = true →
        ∀ (α : Type) (xs : List α), window.select (xs.take capacity) = window.select xs := by
  refine ⟨fun limit offset => ⟨exists_ofRaw_iff, fun e => ofRaw_eq_error_iff, fun window => ofRaw_eq_ok_iff⟩, ?_⟩
  intro window
  refine ⟨ofRaw_eq_ok_iff.mpr ⟨rfl, rfl⟩, fun capacity => fits_iff, window.stop_eq, ?_⟩
  intro capacity fits α xs
  obtain ⟨limit, bounded, inside⟩ := fits_iff.mp fits
  exact select_take bounded (Nat.le_of_lt inside) xs

/-- Ten elements behind 989 of two thousand, of which a cache keeps one thousand. -/
theorem checked_thousand :
    (Window.of 10 989).fits 1000 = true ∧
      (Window.of 10 989).select ((List.range 2000).take 1000) = (Window.of 10 989).select (List.range 2000) := by
  have fits : (Window.of 10 989).fits 1000 = true := by decide
  exact ⟨fits, (checked.2 (.of 10 989)).2.2.2 1000 fits Nat (List.range 2000)⟩

end FeedFanout.Window
