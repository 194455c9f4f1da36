import FeedFanout.Proofs.Layers
import Mathlib.Data.Bool.AllAny

/-!
Variables of the environment as a layer. A path of two names is written in one way (`Path.text_of_ofKey`), so the
variable that names a key is all that the layer has for it (`Settings.Environment.mentioned_document`).
-/
namespace FeedFanout

namespace Path

theorem name?_eq_some {cs rest : List Char} {name : String} (read : name? cs = some (.key name, rest)) :
    cs = name.toList ++ rest := by
  unfold name? at read
  split at read
  · cases read
  · cases read
    simp

theorem index?_ne_key (cs : List Char) (name : String) (rest : List Char) : index? cs ≠ some (.key name, rest) := by
  unfold index?
  extract_lets inner digits
  split
  · nofun
  · split <;> nofun
  · nofun

theorem steps?_eq_nil {fuel : Nat} {cs : List Char} (read : steps? fuel cs = some []) : cs = [] := by
  unfold steps? at read
  split at read <;> simp [Option.bind_eq_some_iff] at read
  rfl

theorem steps?_eq_key {fuel : Nat} {cs : List Char} {name : String} (read : steps? fuel cs = some [.key name]) :
    cs = '.' :: name.toList := by
  unfold steps? at read
  split at read
  · cases read
  · cases read
  · simp only [Option.bind_eq_bind, Option.pure_def, Option.bind_eq_some_iff] at read
    obtain ⟨⟨step, rest⟩, named, path, later, same⟩ := read
    cases same
    obtain rfl : rest = [] := steps?_eq_nil later
    rw [name?_eq_some named, List.append_nil]
  · simp only [Option.bind_eq_bind, Option.pure_def, Option.bind_eq_some_iff] at read
    obtain ⟨⟨step, rest⟩, placed, path, later, same⟩ := read
    cases same
    exact absurd placed (index?_ne_key _ _ _)
  · cases read

/-- A path of two names is written with a point between them, and in no other way. -/
theorem text_of_ofKey {s first second : String} (path : ofKey s = [.key first, .key second]) :
    s = first ++ "." ++ second := by
  unfold ofKey at path
  cases parsed : parse? s with
  | none =>
    rw [parsed] at path
    cases path
  | some steps =>
    rw [parsed, Option.getD_some] at path
    subst path
    simp only [parse?, Option.bind_eq_bind, Option.pure_def, Option.bind_eq_some_iff] at parsed
    obtain ⟨⟨step, rest⟩, named, path, later, same⟩ := parsed
    cases same
    obtain rfl : rest = '.' :: second.toList := steps?_eq_key later
    rw [← String.toList_inj, name?_eq_some named]
    simp

end Path

namespace Text

/-- Small letters and the underscore. -/
def small : List Char := "abcdefghijklmnopqrstuvwxyz_".toList

/-- Texts in capital letters have their small letters back. -/
theorem lowerFrom_map_toUpper {cs : List Char} (plain : ∀ c ∈ cs, c ∈ small) (inWord : Bool) :
    lowerFrom inWord (cs.map Char.toUpper) = cs := by
  have ordinary : ∀ c ∈ small, Char.toUpper c ≠ 'İ' ∧ Char.toUpper c ≠ 'Σ' := by
    simp only [← List.all_iff_forall_prop]
    decide +kernel
  have back : ∀ c ∈ small, lowerChar (Char.toUpper c) = c := by
    simp only [← List.all_iff_forall_prop]
    decide +kernel
  induction cs generalizing inWord with
  | nil => rfl
  | cons c cs ih =>
    obtain ⟨first, plain⟩ := List.forall_mem_cons.mp plain
    obtain ⟨dotted, sigma⟩ := ordinary c first
    rw [List.map_cons, lowerFrom, ih plain, if_neg dotted, if_neg (by simp [sigma]), back c first]
    rfl

end Text

/-- Where no two rows have one key, the last row of a key is the only one. -/
theorem Node.latest_eq_get? {rows : List (String × Node)} (distinct : (rows.map Prod.fst).Nodup) (name : String) :
    latest name rows = Table.get? ⟨rows⟩ name := by
  induction rows with
  | nil => rfl
  | cons row rows ih =>
    obtain ⟨other, value⟩ := row
    obtain ⟨fresh, distinct⟩ := List.nodup_cons.mp distinct
    rw [latest_cons, ih distinct]
    by_cases same : other = name
    · subst same
      have none : Table.get? (⟨rows⟩ : Rows) other = none := by
        simp only [Table.get?, Option.map_eq_none_iff, List.find?_eq_none, decide_eq_true_eq]
        exact fun row member same => fresh (List.mem_map.mpr ⟨row, member, same⟩)
      rw [none]
      simp [Table.get?]
    · simp [Table.get?, same]

namespace Settings

theorem ofKey_path (key : Key) : Path.ofKey key.path = [.key key.group.name, .key key.name] := by
  cases key <;> rfl

theorem path_eq (key : Key) : key.path = key.group.name ++ "." ++ key.name := by
  cases key <;> rfl

/-- A plain row is about a key only if the key's path is what it is for. -/
theorem inRow_scalar (key : Key) (text : String) (value : Scalar) (origin : Option Origin) :
    inRow key (text, .scalar value origin) = if text = key.path then some (.scalar value origin) else none := by
  by_cases same : text = key.path
  · subst same
    simp [inRow, ofKey_path]
  · rw [if_neg same]
    unfold inRow
    split
    · exact ite_self none
    · rename_i group name path
      refine if_neg ?_
      rintro ⟨rfl, rfl⟩
      exact same ((Path.text_of_ofKey path).trans (path_eq key).symm)
    · rfl

namespace Environment

/-- The text that the environment has for a key: the value of the last variable that names it. -/
def value? (env : Environment) (key : Key) : Option String :=
  env.rows.findSomeRev? fun row => if key? row.1 = some key.path then some row.2 else none

/-- A variable's text in a document. -/
def node (text : String) : Node := .scalar (.text text) (some .environment)

/-- One more variable in the document of the environment. -/
def put (rows : Rows) (row : String × String) : Rows :=
  match key? row.1 with
  | some key => rows.set key (node row.2)
  | none => rows

theorem document_eq (env : Environment) : env.document = env.rows.foldl put .empty := by
  refine congrArg (fun step => env.rows.foldl step Table.empty) ?_
  funext rows ⟨name, value⟩
  unfold put
  dsimp only
  cases key? name <;> rfl

theorem foldl_put_induction (good : Rows → Prop) {bindings : List (String × String)} {rows : Rows} (begun : good rows)
    (step : ∀ row ∈ bindings, ∀ key, key? row.1 = some key → ∀ rows, good rows → good (rows.set key (node row.2))) :
    good (bindings.foldl put rows) := by
  induction bindings generalizing rows with
  | nil => exact begun
  | cons row bindings ih =>
    obtain ⟨first, step⟩ := List.forall_mem_cons.mp step
    refine ih ?_ step
    unfold put
    split
    · exact first _ ‹_› rows begun
    · exact begun

theorem nodup_document (env : Environment) : (env.document.rows.map Prod.fst).Nodup := by
  rw [document_eq]
  refine foldl_put_induction (fun rows => (rows.rows.map Prod.fst).Nodup) List.nodup_nil ?_
  exact fun _ _ _ _ _ distinct => Table.nodup_setRows _ _ distinct

/-- What stands in the document was a variable. -/
theorem mem_document {env : Environment} {row : String × Node} (member : row ∈ env.document.rows) :
    ∃ source ∈ env.rows, key? source.1 = some row.1 ∧ row.2 = node source.2 := by
  revert member
  rw [document_eq]
  refine foldl_put_induction (fun rows => row ∈ rows.rows → _) nofun ?_
  intro source among key named rows before member
  obtain rfl | old := Table.mem_setRows member
  · exact ⟨source, among, named, rfl⟩
  · exact before old

theorem get?_foldl_put (key : Key) (bindings : List (String × String)) (rows : Rows) :
    (bindings.foldl put rows).get? key.path =
      ((bindings.findSomeRev? fun row => if key? row.1 = some key.path then some row.2 else none).map node).or
        (rows.get? key.path) := by
  induction bindings generalizing rows with
  | nil => rfl
  | cons row bindings ih =>
    rw [List.foldl_cons, ih, findSomeRev?_cons]
    cases bindings.findSomeRev? fun row => if key? row.1 = some key.path then some row.2 else none with
    | some text => simp only [Option.some_or, Option.map_some]
    | none =>
      rw [Option.none_or, Option.map_none, Option.none_or, put]
      cases named : key? row.1 with
      | none => simp
      | some other =>
        dsimp only
        rw [Table.get?_set]
        by_cases same : key.path = other
        · simp [same]
        · simp [same, Ne.symm same]

/-- The environment has for a key what the last variable says that names it. -/
theorem mentioned_document (env : Environment) (key : Key) :
    mentioned key env.document.rows = (env.value? key).map node := by
  have plain : mentioned key env.document.rows = Node.latest key.path env.document.rows := by
    refine findSomeRev?_congr ?_
    rintro ⟨text, value⟩ member
    obtain ⟨source, -, -, rfl⟩ := mem_document member
    exact inRow_scalar ..
  rw [plain, Node.latest_eq_get? env.nodup_document]
  change env.document.get? key.path = _
  rw [document_eq, get?_foldl_put, Table.get?_empty, Option.or_none, value?]

/-- The text of a variable as the value of a key, if it can be converted. -/
def convert? (key : Key) (text : String) : Option key.kind.Value :=
  match ofScalar key.kind (.text text) with
  | .ok value => value
  | .error _ => none

theorem isSome_convert?_iff (key : Key) (text : String) :
    (convert? key text).isSome ↔ ∃ value, ofScalar key.kind (.text text) = .ok (some value) := by
  unfold convert?
  cases ofScalar key.kind (.text text) with
  | error wrong => exact ⟨nofun, nofun⟩
  | ok value => simp [Option.isSome_iff_exists]

/-- The values that the environment gives to keys. -/
def gives (env : Environment) : Draft := fun key => (env.value? key).bind (convert? key)

/-- Variables of settings: what is for a section is for one name in it, and what is for a key can be converted. -/
structure Orderly (env : Environment) : Prop where
  fit : ∀ row ∈ env.rows, ∀ text, key? row.1 = some text → ∀ (group : Group) rest,
    Path.ofKey text = .key group.name :: rest → ∃ name, rest = [.key name]
  converts : ∀ key text, env.value? key = some text → ∃ value, ofScalar key.kind (.text text) = .ok (some value)

theorem Orderly.layer {env : Environment} (orderly : env.Orderly) : Layer env.document where
  fit row member group rest path := by
    obtain ⟨source, among, named, -⟩ := mem_document member
    exact .inr (orderly.fit source among row.1 named group rest path)
  converts key value found := by
    rw [mentioned_document, Option.map_eq_some_iff] at found
    obtain ⟨text, given, rfl⟩ := found
    obtain ⟨value, converted⟩ := orderly.converts key text given
    exact ⟨value, by rw [node, ofNode, converted]⟩

/-- The environment gives values to the keys that variables name. -/
theorem Orderly.isSome_gives_iff {env : Environment} (orderly : env.Orderly) {key : Key} :
    (env.gives key).isSome ↔ ∃ row ∈ env.rows, key? row.1 = some key.path := by
  have named : (env.value? key).isSome ↔ ∃ row ∈ env.rows, key? row.1 = some key.path := by
    simp [value?, List.findSome?_isSome_iff]
  rw [← named, gives]
  cases given : env.value? key with
  | none => rfl
  | some text =>
    have converted := (isSome_convert?_iff key text).mpr (orderly.converts key text given)
    simp [converted]

theorem gives_document (env : Environment) : Settings.gives env.document = env.gives := by
  funext key
  rw [Settings.gives, gives, mentioned_document]
  cases env.value? key with
  | none => rfl
  | some text =>
    change Key.value? key (node text) = convert? key text
    rw [Key.value?, convert?, node, ofNode]
    cases ofScalar key.kind (.text text) <;> rfl

/-- The name of the variable for a key, in small letters. -/
def lowercase (key : Key) : String := s!"homefeed__{key.group.name}__{key.name}"

/-- The name of the variable for a key. -/
def name (key : Key) : String := String.ofList ((lowercase key).toList.map Char.toUpper)

/-- Each key has a variable. -/
theorem key?_name (key : Key) : key? (name key) = some key.path := by
  have plain : ∀ c ∈ (lowercase key).toList, c ∈ Text.small := by
    simp only [← List.all_iff_forall_prop]
    cases key <;> decide +kernel
  rw [key?, Text.lower, name]
  simp only [String.toList_ofList]
  rw [Text.lowerFrom_map_toUpper plain]
  cases key <;> decide +kernel

example : name .port = "HOMEFEED__SERVER__PORT" := by decide +kernel

end Environment
end Settings
end FeedFanout
