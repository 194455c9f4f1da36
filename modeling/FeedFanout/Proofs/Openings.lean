import FeedFanout.Proofs.Accounts
import FeedFanout.Proofs.Layers
import FeedFanout.Proofs.Validity

/-!
The opening of channels. The first viewer of a user opens a channel of the capacity that was configured, and the program
breaks off if there is none so large (`House.run?`). Settings admit every capacity above zero, so the program breaks off
with those that no channel has, when somebody comes before the notifier is closed (`Settings.run?_notifier_eq_none_iff`).
-/
namespace FeedFanout
namespace Live.House
variable {capacity : Nat} {h : House}

/-- What an act makes of a house, if the program does not break off. -/
def step? (h : House) : Act → Option House
  | .subscribe user => (h.notifier.subscribe? user).map fun _ => h.step (.subscribe user)
  | act => some (h.step act)

/-- The house after some acts, if the program does not break off. -/
def run? (h : House) : List Act → Option House
  | [] => some h
  | act :: acts => (h.step? act).bind (run? · acts)

/-- Somebody comes before the notifier is closed. -/
def Visited (acts : List Act) : Prop := ∃ user, .subscribe user ∈ acts.takeWhile (!·.closes)

theorem visited_cons (act : Act) (acts : List Act) :
    Visited (act :: acts) ↔ (∃ user, act = .subscribe user) ∨ act.closes = false ∧ Visited acts := by
  cases act with
  | subscribe user => simp [Visited, Act.closes]
  | publish | receive | leave | close => simp [Visited, Act.closes]

namespace Orderly

/-- The program breaks off where somebody comes for whom no channel can be opened. -/
theorem step?_eq_none_iff (orderly : h.Orderly capacity) (act : Act) :
    h.step? act = none ↔
      h.notifier.isClosed = false ∧ largestCapacity < max capacity 1 ∧ ∃ user, act = .subscribe user := by
  cases act with
  | subscribe user =>
    rw [step?, Option.map_eq_none_iff, orderly.sound.subscribe?_eq_none_iff]
    simp
  | publish | receive | leave | close => simp [step?]

theorem step?_eq_some {h' : House} {act : Act} (given : h.step? act = some h') : h' = h.step act := by
  cases act with
  | subscribe user =>
    obtain ⟨-, -, rfl⟩ := Option.map_eq_some_iff.mp given
    rfl
  | publish | receive | leave | close => exact (Option.some.inj given).symm

theorem run?_eq_none_iff (orderly : h.Orderly capacity) (acts : List Act) :
    h.run? acts = none ↔ h.notifier.isClosed = false ∧ largestCapacity < max capacity 1 ∧ Visited acts := by
  induction acts generalizing h with
  | nil => simp [run?, Visited]
  | cons act acts ih =>
    have now := orderly.step?_eq_none_iff act
    have later := ih (orderly.step act)
    rw [isClosed_step, Bool.or_eq_false_iff] at later
    rw [run?, visited_cons]
    cases given : h.step? act with
    | none =>
      obtain ⟨running, large, comes⟩ := now.mp given
      exact ⟨fun _ => ⟨running, large, .inl comes⟩, fun _ => rfl⟩
    | some h' =>
      rw [given] at now
      rw [Option.bind_some, step?_eq_some given, later]
      constructor
      · rintro ⟨⟨running, goes⟩, large, visited⟩
        exact ⟨running, large, .inr ⟨goes, visited⟩⟩
      · rintro ⟨running, large, comes | ⟨goes, visited⟩⟩
        · cases now.mpr ⟨running, large, comes⟩
        · exact ⟨⟨running, goes⟩, large, visited⟩

end Orderly

theorem run?_eq_some {acts : List Act} {h' : House} (given : h.run? acts = some h') : h' = h.run acts := by
  induction acts generalizing h with
  | nil => exact (Option.some.inj given).symm
  | cons act acts ih =>
    obtain ⟨next, first, rest⟩ := Option.bind_eq_some_iff.mp given
    rw [Orderly.step?_eq_some first] at rest
    exact ih rest

end Live.House

namespace Settings

/-! ### Capacities that settings admit -/

/-- Settings that are admitted are admitted with any other capacity above zero. -/
theorem ofDraft_channelCapacity {draft : Draft} {s : Settings} (made : ofDraft draft = .ok s)
    (capacity : Fin (largest64 + 1)) (above : 0 < capacity.val) :
    ofDraft (draft.set .channelCapacity capacity) = .ok { s with channelCapacity := ⟨capacity, above⟩ } := by
  rw [← ofDraft_filled, ofDraft_eq_ok_iff] at made ⊢
  intro key
  by_cases changed : Key.channelCapacity = key
  · subst changed
    rw [Draft.set_self]
    exact dif_pos above
  · rw [Draft.set_of_ne _ _ changed, made key]
    cases key with
    | channelCapacity => exact absurd rfl changed
    | _ => rfl

theorem channelCapacity_lt {draft : Draft} {s : Settings} (made : ofDraft draft = .ok s) :
    s.channelCapacity.val < 2 ^ 64 := by
  rw [← ofDraft_filled, ofDraft_eq_ok_iff] at made
  have admitted : Key.positive? ((draft .channelCapacity).getD (Key.default .channelCapacity)).val =
      some s.channelCapacity := made .channelCapacity
  unfold Key.positive? at admitted
  split at admitted
  · rw [← Option.some.inj admitted]
    exact ((draft .channelCapacity).getD (Key.default .channelCapacity)).isLt
  · cases admitted

/-- A place where nothing is said of the settings. -/
def bareFiles : Files := ⟨"/srv", []⟩

theorem document_bare (library : Library) (name : String) : bareFiles.document library false name = .ok .empty := by
  have absent : ∀ path, bareFiles.read? path = none := fun path => Files.read?_eq_none nofun
  have missing : bareFiles.find library name = .error (.missing name) := by
    rw [Files.find, absent]
    dsimp only
    rw [List.findSome?_eq_none_iff.mpr]
    rintro ⟨format, path⟩ -
    exact congrArg (Option.map _) (absent path)
  rw [Files.document, missing]
  rfl

theorem load_bare (library : Library) (overrides : Draft) :
    load library bareFiles ⟨[]⟩ none overrides = (ofDraft overrides).mapError .invalid := by
  have read : layers library bareFiles ⟨[]⟩ none = .ok [.empty, .empty, .empty] := by
    rw [layers, document_bare, document_bare]
    rfl
  have unsaid : given [.empty, .empty, .empty] = .empty := by
    funext key
    rfl
  have drafted := loadDraft_eq read (by decide)
  rw [unsaid] at drafted
  unfold load
  rw [drafted]
  have alone : overrides.onto .empty = overrides := by
    funext key
    exact Option.or_none
  change (ofDraft (overrides.onto .empty)).mapError _ = _
  rw [alone]

/-- Every capacity above zero is admitted. -/
theorem exists_load_of_capacity (library : Library) {capacity : Nat} (above : 0 < capacity) (below : capacity < 2 ^ 64) :
    ∃ s, load library bareFiles ⟨[]⟩ none (Draft.empty.set .channelCapacity ⟨capacity, below⟩) = .ok s ∧
      s.channelCapacity.val = capacity := by
  cases made : ofDraft .empty with
  | error e =>
    have accepted : (ofDraft .empty).isOk = true := by decide +kernel
    rw [made] at accepted
    cases accepted
  | ok s =>
    refine ⟨{ s with channelCapacity := ⟨capacity, above⟩ }, ?_, rfl⟩
    rw [load_bare, ofDraft_channelCapacity made ⟨capacity, below⟩ above]
    rfl

theorem exists_ofDraft_of_load {library : Library} {files : Files} {env : Environment} {named : Option String}
    {overrides : Draft} {s : Settings} (loaded : load library files env named overrides = .ok s) : ∃ draft, ofDraft draft = .ok s := by
  obtain ⟨draft, -, checked⟩ := bind_eq_ok_iff.mp loaded
  refine ⟨overrides.onto draft, ?_⟩
  cases made : ofDraft (overrides.onto draft) with
  | error e =>
    rw [made] at checked
    cases checked
  | ok t =>
    rw [made] at checked
    cases checked
    rfl

/-- Settings admit every capacity above zero, up to the largest number of 64 bits, and no other. With one of them,
whatever is done with the notifier, the program breaks off just if no channel has that capacity and somebody comes
before the notifier is closed. -/
theorem run?_notifier_eq_none_iff (library : Library) (capacity : Nat) :
    ((∃ files env named overrides s, load library files env named overrides = .ok s ∧ s.channelCapacity.val = capacity) ↔
      0 < capacity ∧ capacity < 2 ^ 64) ∧
    ∀ files env named overrides s, load library files env named overrides = .ok s → s.channelCapacity.val = capacity →
      ∀ acts : List Live.Act,
        (Live.House.run? ⟨s.notifier, []⟩ acts = none ↔
          Live.largestCapacity < capacity ∧ ∃ user, .subscribe user ∈ acts.takeWhile (!·.closes)) ∧
        ∀ h, Live.House.run? ⟨s.notifier, []⟩ acts = some h → h = Live.House.run ⟨s.notifier, []⟩ acts := by
  refine ⟨⟨?_, ?_⟩, ?_⟩
  · rintro ⟨files, env, named, overrides, s, loaded, rfl⟩
    obtain ⟨draft, made⟩ := exists_ofDraft_of_load loaded
    exact ⟨s.channelCapacity.property, channelCapacity_lt made⟩
  · rintro ⟨above, below⟩
    obtain ⟨s, loaded, same⟩ := exists_load_of_capacity library above below
    exact ⟨_, _, _, _, s, loaded, same⟩
  · rintro files env named overrides s loaded rfl acts
    have above := s.channelCapacity.property
    refine ⟨?_, fun h => Live.House.run?_eq_some⟩
    have begun : Live.House.Orderly s.channelCapacity ⟨s.notifier, []⟩ := .empty s.channelCapacity
    rw [begun.run?_eq_none_iff acts, Nat.max_eq_left above]
    exact and_iff_right rfl

/-- A viewer comes to a notifier of a capacity that settings admit, and the program breaks off. -/
theorem run?_notifier_unopened :
    ¬∀ library files env named overrides s, load library files env named overrides = .ok s →
      ∀ acts : List Live.Act, Live.House.run? ⟨s.notifier, []⟩ acts ≠ none := by
  intro never
  obtain ⟨s, loaded, capacity⟩ := @exists_load_of_capacity .plain (2 ^ 63) (by decide) (by decide)
  refine never _ _ _ _ _ s loaded [.subscribe (.ofNat 7)] ?_
  rw [Settings.notifier, capacity]
  decide +kernel

end Settings
end FeedFanout
