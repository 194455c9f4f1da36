import FeedFanout.CommandLine.Invocation

/-!
Options of command lines. An option is written with its value behind an equals sign or in a word of its own
(`CommandLine.Spelled`). However they are written, options that differ and whose values can be converted are read as
what they say (`CommandLine.read_typed`); without the command that runs the service there are none.
-/
namespace FeedFanout.CommandLine
open Settings (Key Draft)

/-! ### Words -/

/-- A word of two hyphens and something behind them. -/
theorem ofText_long (c : Char) (cs : List Char) :
    Word.ofText (String.ofList ('-' :: '-' :: c :: cs)) =
      .long (String.ofList ((c :: cs).takeWhile (· ≠ '=')))
        (match (c :: cs).drop ((c :: cs).takeWhile (· ≠ '=')).length with
          | _ :: value => some (String.ofList value)
          | [] => none) := by
  unfold Word.ofText
  rw [String.toList_ofList]
  rfl

/-- The word of an option, without its hyphens. -/
theorem name_cons (choice : Choice) :
    ∃ c cs, choice.name.toList = c :: cs ∧ (c :: cs).all (· ≠ '=') = true := by
  rcases choice with _ | key
  · exact ⟨_, _, rfl, by decide⟩
  · cases key <;> exact ⟨_, _, rfl, by decide⟩

theorem ofText_joined (choice : Choice) (text : String) :
    Word.ofText ("--" ++ choice.name ++ "=" ++ text) = .long choice.name (some text) := by
  obtain ⟨c, cs, name, plain⟩ := name_cons choice
  have word : "--" ++ choice.name ++ "=" ++ text = String.ofList ('-' :: '-' :: c :: (cs ++ '=' :: text.toList)) := by
    rw [← String.toList_inj]
    simp [name]
  have taken : (c :: (cs ++ '=' :: text.toList)).takeWhile (· ≠ '=') = c :: cs := by
    rw [← List.cons_append, List.takeWhile_append_of_pos (List.all_eq_true.mp plain)]
    simp
  rw [word, ofText_long, taken, ← name, String.ofList_toList]
  simp [name]

theorem ofText_apart (choice : Choice) : Word.ofText ("--" ++ choice.name) = .long choice.name none := by
  obtain ⟨c, cs, name, plain⟩ := name_cons choice
  have word : "--" ++ choice.name = String.ofList ('-' :: '-' :: c :: cs) := by
    rw [← String.toList_inj]
    simp [name]
  have taken : (c :: cs).takeWhile (· ≠ '=') = c :: cs := by
    rw [← List.append_nil (c :: cs), List.takeWhile_append_of_pos (List.all_eq_true.mp plain)]
    rfl
  rw [word, ofText_long, taken, ← name, String.ofList_toList, List.drop_length]

theorem find?_name {menu : Menu} {choice : Choice} (known : choice ∈ menu.choices) :
    menu.choices.find? (·.name = choice.name) = some choice := by
  cases menu with
  | program =>
    rw [List.mem_singleton.mp known]
    rfl
  | serve =>
    obtain ⟨key, -, rfl⟩ := List.mem_map.mp known
    cases key <;> rfl

theorem dashed_ne {s word : String} (other : word.toList.head? ≠ some '-') : "--" ++ s ≠ word := by
  rintro rfl
  simp at other

/-! ### Readings -/

namespace Reading
variable {r r' : Reading}

theorem pending_keep {choice : Choice} {text : String} (kept : r.keep choice text = .ok r') :
    r'.pending = r.pending := by
  cases choice with
  | configFile =>
    simp only [keep] at kept
    split at kept
    · cases kept
    split at kept
    · cases kept
    · cases kept
      rfl
  | setting key =>
    simp only [keep] at kept
    split at kept
    · cases kept
    split at kept
    · cases kept
      rfl
    · cases kept

theorem pending_settle (settled : r.settle = .ok r') : r'.pending = none := by
  unfold settle at settled
  split at settled
  · cases settled
    assumption
  · cases settled
  · exact pending_keep settled

theorem awaits_of_settle (settled : r.settle = .ok r') : r.awaits = false := by
  unfold settle at settled
  unfold awaits
  split at settled <;> simp_all

theorem settle_of_none (none : r.pending = none) : r.settle = .ok r := by
  unfold settle
  rw [none]

/-- Keeps the values of options, each once. -/
def keepAll (r : Reading) (flags : List (Choice × String)) : Except Refusal Reading :=
  flags.foldlM (fun r flag => r.keep flag.1 flag.2) r

theorem keepAll_cons {flag : Choice × String} {flags : List (Choice × String)}
    (kept : r.keepAll (flag :: flags) = .ok r') :
    ∃ next, r.keep flag.1 flag.2 = .ok next ∧ next.keepAll flags = .ok r' := by
  rw [keepAll, List.foldlM_cons] at kept
  cases first : r.keep flag.1 flag.2 with
  | error e =>
    rw [first] at kept
    cases kept
  | ok next =>
    rw [first] at kept
    exact ⟨next, rfl, kept⟩

theorem keep_file {path : String} (unnamed : r.file = none) (full : path ≠ "") :
    r.keep .configFile path = .ok { r with file := path } := by
  have nonempty : path.isEmpty = false := by
    rw [← Bool.not_eq_true, String.isEmpty_iff]
    exact full
  simp only [keep, unnamed, nonempty]
  rfl

end Reading

/-- Words that give options their values. -/
inductive Spelled (menu : Menu) : List String → List (Choice × String) → Prop
  | nil : Spelled menu [] []
  | joined {choice : Choice} {words : List String} {flags : List (Choice × String)} (known : choice ∈ menu.choices)
      (text : String) (rest : Spelled menu words flags) :
      Spelled menu (("--" ++ choice.name ++ "=" ++ text) :: words) ((choice, text) :: flags)
  | apart {choice : Choice} {text : String} {words : List String} {flags : List (Choice × String)}
      (known : choice ∈ menu.choices) (plain : Word.ofText text = .plain) (rest : Spelled menu words flags) :
      Spelled menu (("--" ++ choice.name) :: text :: words) ((choice, text) :: flags)

section
variable {menu : Menu} {file : String} {r r₀ r₁ : Reading} {choice : Choice}

theorem scan_joined (known : choice ∈ menu.choices) (text : String) (words : List String) (settled : r.settle = .ok r₀)
    (kept : r₀.keep choice text = .ok r₁) :
    scan menu file r (("--" ++ choice.name ++ "=" ++ text) :: words) = scan menu file r₁ words := by
  have dashed : "--" ++ choice.name ++ "=" ++ text = "--" ++ (choice.name ++ "=" ++ text) := by
    simp [String.append_assoc]
  conv => lhs; unfold scan
  rw [if_neg fun same => dashed_ne (by decide) (dashed.symm.trans same.2.2),
    if_neg fun same => dashed_ne (by decide) (dashed.symm.trans same.2.2), ofText_joined]
  simp only [find?_name known, settled]
  change (r₀.keep choice text >>= fun r => scan menu file r words) = _
  rw [kept]
  rfl

theorem scan_apart (known : choice ∈ menu.choices) {text : String} (plain : Word.ofText text = .plain)
    (words : List String) (settled : r.settle = .ok r₀) :
    scan menu file r (("--" ++ choice.name) :: text :: words) =
      scan menu file { r₀ with pending := some (choice, some text) } words := by
  conv => lhs; unfold scan
  rw [if_neg fun same => dashed_ne (by decide) same.2.2, if_neg fun same => dashed_ne (by decide) same.2.2,
    ofText_apart]
  simp only [find?_name known, settled]
  change scan menu file { r₀ with pending := some (choice, none) } (text :: words) = _
  conv => lhs; unfold scan
  rw [if_neg (by simp [Reading.awaits]), if_neg (by simp [Reading.awaits]), plain]

/-- Words that give options their values are read as these values. The last may still have to be checked. -/
theorem scan_spelled (file : String) {words : List String} {flags : List (Choice × String)}
    (spelled : Spelled menu words flags) (rest : List String) (settled : r.settle = .ok r₀)
    (kept : r₀.keepAll flags = .ok r₁) :
    ∃ r₂, scan menu file r (words ++ rest) = scan menu file r₂ rest ∧ r₂.settle = .ok r₁ := by
  induction spelled generalizing r r₀ with
  | nil =>
    cases kept
    exact ⟨r, rfl, settled⟩
  | @joined choice words flags known text spelled ih =>
    obtain ⟨next, first, kept⟩ := Reading.keepAll_cons kept
    have idle := (Reading.pending_keep first).trans (Reading.pending_settle settled)
    obtain ⟨r₂, same, last⟩ := ih (Reading.settle_of_none idle) kept
    exact ⟨r₂, (scan_joined known text _ settled first).trans same, last⟩
  | @apart choice text words flags known plain spelled ih =>
    obtain ⟨next, first, kept⟩ := Reading.keepAll_cons kept
    -- The value is only checked when what follows it has been looked at.
    have waiting : Reading.settle { r₀ with pending := some (choice, some text) } = .ok next := by
      have idle := Reading.pending_settle settled
      unfold Reading.settle
      rw [← first]
      obtain ⟨file, draft, pending⟩ := r₀
      cases idle
      rfl
    obtain ⟨r₂, same, last⟩ := ih waiting kept
    exact ⟨r₂, (scan_apart known plain _ settled).trans same, last⟩

end

/-! ### Command lines -/

/-- Options with texts, as the reader has them. -/
def optionsOf (flags : List (Key × String)) : List (Choice × String) := flags.map fun flag => (.setting flag.1, flag.2)

/-- The value that options give to a key. -/
def gives (flags : List (Key × String)) : Draft := fun key =>
  match flags.lookup key with
  | none => none
  | some text => (ofText key.kind text).toOption

/-- Options of which no two are for one key, with values that can be converted. -/
structure Orderly (flags : List (Key × String)) : Prop where
  distinct : (flags.map Prod.fst).Nodup
  converts : ∀ flag ∈ flags, ∃ value, ofText flag.1.kind flag.2 = .ok value

theorem gives_cons_self {key : Key} {text : String} {value : key.kind.Value} (flags : List (Key × String))
    (converted : ofText key.kind text = .ok value) : gives ((key, text) :: flags) key = some value := by
  simp only [gives, List.lookup_cons_self, converted]
  rfl

theorem gives_cons_of_ne {key other : Key} (apart : key ≠ other) (text : String) (flags : List (Key × String)) :
    gives ((key, text) :: flags) other = gives flags other := by
  have none : (other == key) = false := beq_eq_false_iff_ne.mpr (Ne.symm apart)
  simp only [gives, List.lookup_cons, none]

/-- Options give values to their keys, and to no others. -/
theorem isSome_gives_iff {flags : List (Key × String)} (orderly : Orderly flags) {key : Key} :
    (gives flags key).isSome ↔ key ∈ flags.map Prod.fst := by
  induction flags with
  | nil => simp [gives]
  | cons flag flags ih =>
    obtain ⟨other, text⟩ := flag
    obtain ⟨-, distinct⟩ := List.nodup_cons.mp orderly.distinct
    obtain ⟨⟨value, converted⟩, converts⟩ := List.forall_mem_cons.mp orderly.converts
    by_cases mine : other = key
    · subst mine
      rw [gives_cons_self flags converted]
      simp
    · rw [gives_cons_of_ne mine, ih ⟨distinct, converts⟩]
      simp [Ne.symm mine]

theorem keepAll_optionsOf {flags : List (Key × String)} (orderly : Orderly flags) {r : Reading}
    (free : ∀ flag ∈ flags, r.draft flag.1 = none) :
    r.keepAll (optionsOf flags) = .ok { r with draft := (gives flags).onto r.draft } := by
  induction flags generalizing r with
  | nil => rfl
  | cons flag flags ih =>
    obtain ⟨key, text⟩ := flag
    obtain ⟨fresh, distinct⟩ := List.nodup_cons.mp orderly.distinct
    obtain ⟨⟨value, converted⟩, converts⟩ := List.forall_mem_cons.mp orderly.converts
    obtain ⟨first, free⟩ := List.forall_mem_cons.mp free
    have kept : r.keep (.setting key) text = .ok { r with draft := r.draft.set key value } := by
      simp only [Reading.keep, first, converted]
      rfl
    have later : ∀ flag ∈ flags, r.draft.set key value flag.1 = none := by
      intro flag member
      have apart : key ≠ flag.1 := by
        rintro rfl
        exact fresh (List.mem_map.mpr ⟨flag, member, rfl⟩)
      rw [Draft.set_of_ne _ _ apart]
      exact free flag member
    rw [Reading.keepAll, optionsOf, List.map_cons, List.foldlM_cons, kept]
    change Reading.keepAll _ (optionsOf flags) = _
    rw [ih ⟨distinct, converts⟩ later]
    have same : (gives flags).onto (r.draft.set key value) = (gives ((key, text) :: flags)).onto r.draft := by
      funext other
      by_cases mine : key = other
      · subst mine
        have none : gives flags key = none := by
          rw [← Option.not_isSome_iff_eq_none, isSome_gives_iff ⟨distinct, converts⟩]
          exact fresh
        rw [Draft.onto, Draft.onto, none, Draft.set_self, gives_cons_self flags converted]
        rfl
      · rw [Draft.onto, Draft.onto, Draft.set_of_ne _ _ mine, gives_cons_of_ne mine]
    rw [same]

theorem readServe_spelled {words : List String} {flags : List (Key × String)}
    (spelled : Spelled .serve words (optionsOf flags)) (orderly : Orderly flags) :
    readServe words = .ok (gives flags) := by
  have kept := keepAll_optionsOf orderly (r := .start) fun _ _ => rfl
  obtain ⟨r, same, settled⟩ := scan_spelled "" spelled [] (r := .start) rfl kept
  rw [List.append_nil] at same
  unfold readServe
  rw [same]
  change (r.settle >>= fun r => .ok r.draft) = _
  rw [settled]
  change Except.ok ((gives flags).onto .empty) = _
  congr
  funext key
  exact Option.or_none

/-- A command line may name a file, and has some options if it has the command that runs the service. -/
inductive Typed : List String → Option String → Option (List (Key × String)) → Prop
  | bare {front : List String} {path : Option String}
      (spelled : Spelled .program front (path.toList.map fun path => (.configFile, path))) : Typed front path none
  | serve {front behind : List String} {path : Option String} {flags : List (Key × String)}
      (spelled : Spelled .program front (path.toList.map fun path => (.configFile, path)))
      (options : Spelled .serve behind (optionsOf flags)) : Typed (front ++ "serve" :: behind) path (some flags)

theorem keepAll_file {path : Option String} (named : path ≠ some "") :
    Reading.start.keepAll (path.toList.map fun path => (.configFile, path)) =
      .ok { Reading.start with file := path } := by
  cases path with
  | none => rfl
  | some path =>
    change (Reading.keep .start .configFile path >>= fun r => .ok r) = _
    rw [Reading.keep_file rfl fun empty => named (congrArg some empty)]
    rfl

/-- The end of a command line: a file that no option names may be named by a variable. -/
theorem finish_read {r : Reading} {path ambient : Option String}
    (settled : r.settle = .ok { Reading.start with file := path }) (named : path.or ambient ≠ some "")
    (serve : Option Draft) :
    (do
      let r ← r.settle
      let r ← match r.file, ambient with
        | none, some file => r.keep .configFile file
        | _, _ => .ok r
      return ⟨r.file, serve⟩ : Except Refusal Invocation) = .ok ⟨path.or ambient, serve⟩ := by
  rw [settled]
  obtain _ | path := path
  · obtain _ | file := ambient
    · rfl
    · change (Reading.keep .start .configFile file >>= fun r => _) = _
      rw [Reading.keep_file rfl fun empty => named (congrArg some empty)]
      rfl
  · rfl

/-- Options that can be converted are read as what they say. Without the command that runs the service, none are. -/
theorem read_typed {env : Settings.Environment} {words : List String} {path : Option String}
    {flags : Option (List (Key × String))} (typed : Typed words path flags)
    (named : path.or (env.get? fileVariable) ≠ some "") (orderly : ∀ options, flags = some options → Orderly options) :
    read env words = .ok ⟨path.or (env.get? fileVariable), flags.map gives⟩ := by
  have file : Reading.start.keepAll (path.toList.map fun path => (.configFile, path)) =
      .ok { Reading.start with file := path } := by
    refine keepAll_file ?_
    rintro rfl
    exact named rfl
  cases typed with
  | bare spelled =>
    obtain ⟨r, same, settled⟩ := scan_spelled ((env.get? fileVariable).getD "") spelled [] (r := .start) rfl file
    rw [List.append_nil] at same
    unfold read
    extract_lets ambient
    rw [same]
    exact finish_read settled named none
  | @serve front behind path flags spelled options =>
    obtain ⟨r, same, settled⟩ :=
      scan_spelled ((env.get? fileVariable).getD "") spelled ("serve" :: behind) (r := .start) rfl file
    have idle := Reading.awaits_of_settle settled
    have turned : scan .program ((env.get? fileVariable).getD "") r ("serve" :: behind) = .ok (r, some behind) := by
      unfold scan
      rw [if_pos ⟨rfl, by rw [idle]; rfl, rfl⟩]
    unfold read
    extract_lets ambient
    rw [same, turned]
    change ((readServe behind).map some >>= fun serve => _) = _
    rw [readServe_spelled options (orderly flags rfl)]
    exact finish_read settled named (some (gives flags))

end FeedFanout.CommandLine
