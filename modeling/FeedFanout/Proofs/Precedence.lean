import FeedFanout.Proofs.Flags
import FeedFanout.Proofs.Validity
import FeedFanout.Proofs.Variables

/-!
Precedence of the places where settings are read. Of an input that can be read each key has, apart from the others, the
value of the highest level that mentions it, or its default (`Settings.Input.load_eq`). So levels below do not matter to
it (`Settings.Input.value_eq`).
-/
namespace FeedFanout

theorem findSome?_eq_of_overridden {α β : Type} [DecidableEq α] {f g : α → Option β} {xs : List α}
    (same : ∀ x ∈ xs, f x = g x ∨ ∃ y ∈ xs.takeWhile (· ≠ x), (f y).isSome) : xs.findSome? f = xs.findSome? g := by
  induction xs with
  | nil => rfl
  | cons x xs ih =>
    obtain ⟨first, later⟩ := List.forall_mem_cons.mp same
    have equal : f x = g x := by simpa using first
    rw [List.findSome?_cons, List.findSome?_cons, ← equal]
    cases found : f x with
    | some value => rfl
    | none =>
      refine ih fun y member => ?_
      by_cases again : x = y
      · exact .inl (again ▸ equal)
      · simpa [again, found] using later y member

namespace Settings

/-- Where keys are given values, from the highest place to the lowest: options of the command line, variables of the
environment, the file that was named, the local file, and the default file. -/
inductive Level
  | options
  | environment
  | chosen
  | nearby
  | base
deriving DecidableEq, Repr

namespace Level

def all : List Level := [.options, .environment, .chosen, .nearby, .base]

/-- The higher levels. -/
def above (level : Level) : List Level := all.takeWhile (· ≠ level)

end Level

/-- Where settings are loaded from, and what is read there: options and variables for no key twice, files whose sections
are tables, and values that can be converted. -/
structure Input where
  library : Library
  files : Files
  env : Environment
  /-- The command line. -/
  words : List String
  /-- The file that the command line names. -/
  path : Option String
  /-- The options of the service, if it is to run by name. -/
  options : Option (List (Key × String))
  base : Rows
  nearby : Rows
  chosen : Option Rows
  typed : CommandLine.Typed words path options
  named : path.or (env.get? CommandLine.fileVariable) ≠ some ""
  converted : ∀ flags, options = some flags → CommandLine.Orderly flags
  orderly : env.Orderly
  read : layers library files env (path.or (env.get? CommandLine.fileVariable)) =
    .ok ([base, nearby] ++ chosen.toList ++ [env.document])
  layered : ∀ layer ∈ [base, nearby] ++ chosen.toList, Layer layer

namespace Input

/-- What a level gives to the keys. -/
def draft (input : Input) : Level → Draft
  | .options => CommandLine.gives (input.options.getD [])
  | .environment => input.env.gives
  | .chosen => (input.chosen.map gives).getD .empty
  | .nearby => gives input.nearby
  | .base => gives input.base

/-- What the highest level that mentions a key gives to it. -/
def highest (input : Input) : Draft := fun key => Level.all.findSome? fun level => input.draft level key

/-- What the highest level that mentions a key gives to it, or its default if none does. -/
def value (input : Input) (key : Key) : key.kind.Value := (input.highest key).getD key.default

/-- Reads the command line and loads the settings. -/
def load (input : Input) : Except CommandLine.Refusal (Except LoadError Settings) := do
  let invocation ← CommandLine.read input.env input.words
  return Settings.load input.library input.files input.env invocation.configFile invocation.overrides

/-- A level says something of a key: it has an option for it, a variable, or an entry. -/
def Mentions (input : Input) (key : Key) : Level → Prop
  | .options => key ∈ (input.options.getD []).map Prod.fst
  | .environment => ∃ row ∈ input.env.rows, Environment.key? row.1 = some key.path
  | .chosen => ∃ layer ∈ input.chosen, (mentioned key layer.rows).isSome
  | .nearby => (mentioned key input.nearby.rows).isSome
  | .base => (mentioned key input.base.rows).isSome

/-- A level gives values to the keys that it mentions. -/
theorem isSome_draft_iff (input : Input) (key : Key) (level : Level) :
    (input.draft level key).isSome ↔ input.Mentions key level := by
  cases level with
  | options =>
    cases options : input.options with
    | none => simp [draft, Mentions, options, CommandLine.gives]
    | some flags => simpa [draft, Mentions, options] using CommandLine.isSome_gives_iff (input.converted flags options)
  | environment => exact input.orderly.isSome_gives_iff
  | chosen =>
    cases chosen : input.chosen with
    | none => simp [draft, Mentions, chosen, Draft.empty]
    | some layer => simpa [draft, Mentions, chosen] using (input.layered layer (by simp [chosen])).isSome_gives_iff
  | nearby => exact (input.layered input.nearby (by simp)).isSome_gives_iff
  | base => exact (input.layered input.base (by simp)).isSome_gives_iff

/-! ### Values -/

theorem draft_options (input : Input) : (input.options.map CommandLine.gives).getD .empty = input.draft .options := by
  unfold draft
  cases input.options <;> rfl

theorem given_layers (input : Input) :
    Settings.given ([input.base, input.nearby] ++ input.chosen.toList ++ [input.env.document]) =
      (input.draft .environment).onto ((input.draft .chosen).onto ((input.draft .nearby).onto (input.draft .base))) := by
  funext key
  cases chosen : input.chosen <;>
    simp [Settings.given, draft, Draft.onto, Draft.empty, chosen, Environment.gives_document]

/-- The levels laid over one another. -/
theorem onto_levels (input : Input) :
    (input.draft .options).onto ((input.draft .environment).onto
      ((input.draft .chosen).onto ((input.draft .nearby).onto (input.draft .base)))) = input.highest := by
  funext key
  simp only [Draft.onto, highest, Level.all, List.findSome?_cons, List.findSome?_nil]
  cases input.draft .options key <;> cases input.draft .environment key <;> cases input.draft .chosen key <;>
    cases input.draft .nearby key <;> cases input.draft .base key <;> rfl

/-- Settings are loaded as if each key had been given the one value that the highest level which mentions it has for it,
or its default. -/
theorem load_eq (input : Input) :
    input.load = .ok ((ofDraft fun key => some (input.value key)).mapError .invalid) := by
  have drafted :
      loadDraft input.library input.files input.env (input.path.or (input.env.get? CommandLine.fileVariable)) =
      .ok (Settings.given ([input.base, input.nearby] ++ input.chosen.toList ++ [input.env.document])) := by
    refine loadDraft_eq input.read ?_
    intro layer member
    obtain file | ambient := List.mem_append.mp member
    · exact input.layered layer file
    · rw [List.mem_singleton.mp ambient]
      exact input.orderly.layer
  unfold load
  rw [CommandLine.read_typed input.typed input.named input.converted]
  change Except.ok (Settings.load _ _ _ _ ((input.options.map CommandLine.gives).getD .empty)) = _
  unfold Settings.load
  rw [drafted]
  change Except.ok ((ofDraft _).mapError _) = _
  rw [draft_options, given_layers, onto_levels, ← ofDraft_filled]
  rfl

/-! ### Levels that do not matter -/

/-- A higher level mentions the key. -/
def Overridden (input : Input) (key : Key) (level : Level) : Prop := ∃ higher ∈ level.above, input.Mentions key higher

/-- Two inputs have one value for a key if levels differ only where they are overridden. -/
theorem value_eq {input other : Input} {key : Key}
    (same : ∀ level, input.draft level key = other.draft level key ∨ input.Overridden key level) :
    input.value key = other.value key := by
  have highest : input.highest key = other.highest key := by
    refine findSome?_eq_of_overridden ?_
    intro level _
    refine (same level).imp id ?_
    rintro ⟨higher, above, mentioned⟩
    exact ⟨higher, above, (input.isSome_draft_iff key higher).mpr mentioned⟩
  rw [value, value, highest]

theorem load_eq_ok_iff (input : Input) (s : Settings) :
    input.load = .ok (.ok s) ↔ ∀ key, key.check? (input.value key) = some (s.checked key) := by
  rw [load_eq, ← ofDraft_eq_ok_iff]
  cases ofDraft fun key => some (input.value key) with
  | error e => exact ⟨nofun, nofun⟩
  | ok t => constructor <;> (rintro ⟨⟩; rfl)

theorem serve_eq_none {input : Input} {invocation : CommandLine.Invocation}
    (read : CommandLine.read input.env input.words = .ok invocation) (absent : invocation.serve = none) :
    input.options = none := by
  rw [CommandLine.read_typed input.typed input.named input.converted] at read
  cases read
  exact Option.map_eq_none_iff.mp absent

/-- Each key has, whatever the others have, the value of the highest level that mentions it, or its default if none
does; the command line mentions none without the command that runs the service. Settings hold what these values are
accepted as. So inputs that differ only in levels which are overridden for a key yield the same for it. -/
theorem precedence (input : Input) :
    (∀ key level, (input.draft level key).isSome ↔ input.Mentions key level) ∧
    (∀ invocation, CommandLine.read input.env input.words = .ok invocation → invocation.serve = none →
      invocation.overrides = .empty ∧ ∀ key, ¬input.Mentions key .options) ∧
    input.load = .ok ((ofDraft fun key =>
      some ((Level.all.findSome? fun level => input.draft level key).getD key.default)).mapError .invalid) ∧
    (∀ s, input.load = .ok (.ok s) ↔
      ∀ key, key.check? ((Level.all.findSome? fun level => input.draft level key).getD key.default) =
        some (s.checked key)) ∧
    ∀ (other : Input) (s t : Settings), input.load = .ok (.ok s) → other.load = .ok (.ok t) → ∀ key,
      (∀ level, input.draft level key = other.draft level key ∨ input.Overridden key level) →
        s.checked key = t.checked key := by
  refine ⟨input.isSome_draft_iff, ?_, input.load_eq, input.load_eq_ok_iff, ?_⟩
  · intro invocation read absent
    refine ⟨by rw [CommandLine.Invocation.overrides, absent]; rfl, ?_⟩
    simp [Mentions, serve_eq_none read absent]
  · intro other s t loaded otherLoaded key same
    have accepted := (input.load_eq_ok_iff s).mp loaded key
    rw [value_eq same, (other.load_eq_ok_iff t).mp otherLoaded key] at accepted
    exact (Option.some.inj accepted).symm

/-! ### An input -/

/-- A default file. -/
def defaultText : String := "[server]\nport = 1000\nhost = \"0.0.0.0\"\n\n[feed]\nfanout_policy = \"best_effort\"\n"

/-- A local file, in another format. -/
def localText : String := "\x7b\"server\": \x7b\"port\": 2000\x7d, \"warmer\": \x7b\"interval_seconds\": 60\x7d\x7d"

def homeFiles : Files :=
  ⟨"/srv", [("config/default.toml", defaultText.toUTF8), ("homefeed.json", localText.toUTF8)]⟩

/-- What is read in the default file. -/
def defaultRows : Rows := (Library.plain.read .toml defaultText).toOption.getD .empty

/-- What is read in the local file. -/
def localRows : Rows := (Library.plain.read .json localText).toOption.getD .empty

theorem places : Files.place "config/default" = ["default", "config"] ∧
    Files.place "config/default.toml" = ["default.toml", "config"] ∧ Files.place "homefeed" = ["homefeed"] ∧
    Files.place "homefeed.toml" = ["homefeed.toml"] ∧ Files.place "homefeed.json" = ["homefeed.json"] := by
  simp +decide [Files.place, Files.parts, Files.step, String.splitOn, String.splitOnAux]

theorem document_default :
    homeFiles.document .plain false defaultFile = .ok (Files.marked "config/default.toml" defaultRows) := by
  have missing : homeFiles.read? "config/default" = none := by
    refine Files.read?_eq_none ?_
    simp [homeFiles, places]
  have there : homeFiles.read? "config/default.toml" = some defaultText.toUTF8 := rfl
  have paths : Files.extended .plain "config/default" =
      [(.toml, "config/default.toml"), (.json, "config/default.json")] := by
    simp +decide [Files.extended, Files.parts, Files.tidy, String.splitOn, String.splitOnAux, Library.extend]
  have read : Library.plain.read .toml (Files.withoutMark defaultText) = .ok defaultRows := rfl
  refine Files.document_eq ?_ read false
  rw [Files.find, defaultFile, missing, paths]
  simp [there]

theorem document_local :
    homeFiles.document .plain false localFile = .ok (Files.marked "homefeed.json" localRows) := by
  have missing : homeFiles.read? "homefeed" = none ∧ homeFiles.read? "homefeed.toml" = none := by
    constructor <;> refine Files.read?_eq_none ?_
    all_goals simp [homeFiles, places]
  have there : homeFiles.read? "homefeed.json" = some localText.toUTF8 := rfl
  have paths : Files.extended .plain "homefeed" = [(.toml, "homefeed.toml"), (.json, "homefeed.json")] := by
    simp +decide [Files.extended, Files.parts, Files.tidy, String.splitOn, String.splitOnAux, Library.extend]
  have read : Library.plain.read .json (Files.withoutMark localText) = .ok localRows := rfl
  refine Files.document_eq ?_ read false
  rw [Files.find, localFile, missing.1, paths]
  simp [missing.2, there]

/-- The files and an option. -/
def homeInput (env : Environment) (orderly : env.Orderly) (unnamed : env.get? CommandLine.fileVariable = none) :
    Input where
  library := .plain
  files := homeFiles
  env := env
  words := ["serve", "--server-port=4000"]
  path := none
  options := some [(.port, "4000")]
  base := Files.marked "config/default.toml" defaultRows
  nearby := Files.marked "homefeed.json" localRows
  chosen := none
  typed := @CommandLine.Typed.serve [] ["--server-port=4000"] none [(.port, "4000")] .nil
    (@CommandLine.Spelled.joined .serve (.setting .port) [] [] (by decide) "4000" .nil)
  named := by
    rw [unnamed]
    nofun
  converted := by
    rintro flags ⟨⟩
    refine ⟨by decide, ?_⟩
    rintro flag member
    cases List.mem_singleton.mp member
    exact ⟨⟨4000, by decide⟩, rfl⟩
  orderly := orderly
  read := by
    rw [unnamed]
    simp only [layers, document_default, document_local]
    rfl
  layered := by decide +kernel

/-- A variable for the port. -/
def portVariable : Environment := ⟨[(Environment.name .port, "3000")]⟩

theorem orderly_portVariable : portVariable.Orderly where
  fit := by
    intro row member text named group rest path
    cases List.mem_singleton.mp member
    rw [Environment.key?_name] at named
    cases named
    rw [ofKey_path] at path
    exact ⟨_, (List.cons.inj path).2.symm⟩
  converts := by
    intro key text found
    have row : Key.path .port = key.path ∧ "3000" = text := by
      simpa [portVariable, Environment.value?, Environment.key?_name] using found
    obtain ⟨path, rfl⟩ := row
    obtain rfl : key = .port := by
      revert path
      cases key <;> decide +kernel
    exact (Environment.isSome_convert?_iff .port "3000").mp (by decide +kernel)

theorem exists_load {input : Input} (accepted : (ofDraft fun key => some (input.value key)).isOk = true) :
    ∃ s, input.load = .ok (.ok s) := by
  cases made : ofDraft fun key => some (input.value key) with
  | error e =>
    rw [made] at accepted
    cases accepted
  | ok s => exact ⟨s, by rw [input.load_eq, made]; rfl⟩

/-- An option for the port leaves it the same with and without a variable. -/
theorem precedence_port :
    let first := homeInput portVariable orderly_portVariable (by decide +kernel)
    let second := homeInput ⟨[]⟩ ⟨nofun, nofun⟩ rfl
    first.draft .environment .port ≠ second.draft .environment .port ∧
    ∃ s t, first.load = .ok (.ok s) ∧ second.load = .ok (.ok t) ∧ s.checked .port = t.checked .port := by
  intro first second
  obtain ⟨s, loaded⟩ : ∃ s, first.load = .ok (.ok s) := exists_load (by decide +kernel)
  obtain ⟨t, otherLoaded⟩ : ∃ t, second.load = .ok (.ok t) := exists_load (by decide +kernel)
  refine ⟨by decide +kernel, s, t, loaded, otherLoaded, ?_⟩
  obtain ⟨-, -, -, -, unchanged⟩ := first.precedence
  refine unchanged second s t loaded otherLoaded .port ?_
  intro level
  cases level with
  | environment => exact .inr ⟨.options, by decide, List.mem_singleton.mpr rfl⟩
  | options | chosen | nearby | base => exact .inl rfl

end Input

end Settings
end FeedFanout
