import FeedFanout.Proofs.Characters
import FeedFanout.Settings.Load

/-!
Layers of documents. Where the sections of documents are tables, a layer that is laid over a document leaves what it
says of a key, and what it says nothing of as it was (`Settings.find?_overlay`). So each key has the value that the
highest layer gives it which says something of it (`Settings.loadDraft_eq`).
-/
namespace FeedFanout

theorem findSomeRev?_cons {α β : Type} (f : α → Option β) (x : α) (xs : List α) :
    (x :: xs).findSomeRev? f = (xs.findSomeRev? f).or (f x) := by
  rw [List.findSomeRev?]
  cases xs.findSomeRev? f <;> rfl

theorem findSomeRev?_congr {α β : Type} {f g : α → Option β} {xs : List α} (same : ∀ x ∈ xs, f x = g x) :
    xs.findSomeRev? f = xs.findSomeRev? g := by
  induction xs with
  | nil => rfl
  | cons x xs ih =>
    obtain ⟨first, same⟩ := List.forall_mem_cons.mp same
    rw [findSomeRev?_cons, findSomeRev?_cons, ih same, first]

namespace Path

theorem ofKey_head (s : String) : ∃ name rest, ofKey s = .key name :: rest := by
  unfold ofKey
  cases parsed : parse? s with
  | none => exact ⟨s, [], rfl⟩
  | some path =>
    simp only [parse?, name?, Option.bind_eq_bind, Option.pure_def] at parsed
    split at parsed
    · cases parsed
    · simp only [Option.bind_some, Option.bind_eq_some_iff] at parsed
      obtain ⟨rest, -, same⟩ := parsed
      cases same
      exact ⟨_, rest, rfl⟩

end Path

namespace Node

def IsTable (node : Node) : Prop := ∃ rows origin, node = .table rows origin

instance (node : Node) : Decidable node.IsTable :=
  match node with
  | .table rows origin => isTrue ⟨rows, origin, rfl⟩
  | .scalar .. | .list .. => isFalse nofun

theorem onto_of_plain {upper : Node} (plain : ¬upper.IsTable) (lower : Node) : upper.onto lower = upper := by
  cases upper with
  | table rows origin => exact absurd ⟨rows, origin, rfl⟩ plain
  | scalar | list => rw [onto]; nofun

/-- The last value that rows give to a name. -/
def latest (name : String) (rows : List (String × Node)) : Option Node :=
  rows.findSomeRev? fun row => if row.1 = name then some row.2 else none

theorem latest_cons (name other : String) (value : Node) (rows : List (String × Node)) :
    latest name ((other, value) :: rows) = (latest name rows).or (if other = name then some value else none) :=
  findSomeRev?_cons ..

/-- Rows leave the last value they give to a name, if it is plain. -/
theorem get?_ontoRows {name : String} {rows : List (String × Node)}
    (plain : ∀ value, latest name rows = some value → ¬value.IsTable) (lower : Rows) :
    (ontoRows rows lower).get? name = (latest name rows).or (lower.get? name) := by
  induction rows generalizing lower with
  | nil => rw [ontoRows]; rfl
  | cons row rows ih =>
    obtain ⟨other, value⟩ := row
    rw [latest_cons] at plain
    rw [ontoRows, latest_cons, ih fun value later => plain value (by rw [later]; rfl), Table.get?_set]
    cases later : latest name rows with
    | some last => rfl
    | none =>
      by_cases same : other = name
      · rw [if_pos same, if_pos same.symm, onto_of_plain (plain value (by rw [later, if_pos same]; rfl))]
        rfl
      · rw [if_neg same, if_neg (Ne.symm same)]
        rfl

end Node

namespace Settings
open Node (IsTable latest)

/-! ### Files -/

namespace Files

/-- The place to which a path leads. -/
def place (path : String) : List String := (parts path).foldl step []

theorem reach?_eq_some {files : Files} {absolute : Bool} {names start reached : List String}
    (found : files.reach? absolute start names = some reached) : reached = names.foldl step start := by
  induction names generalizing start with
  | nil =>
    cases found
    rfl
  | cons name names ih =>
    rw [List.foldl_cons]
    unfold reach? at found
    split at found
    · rename_i back
      split at found
      · cases found
      · rw [ih found, step, if_pos back]
        rfl
    · rename_i on
      split at found
      · rw [ih found, step, if_neg on]
      · cases found

/-- Nothing is read where no file is. -/
theorem read?_eq_none {files : Files} {path : String} (absent : ∀ row ∈ files.rows, place row.1 ≠ place path) :
    files.read? path = none := by
  have unlisted : files.rows.lookup path = none := by
    rw [List.lookup_eq_none_iff]
    intro row member
    rw [bne_iff_ne]
    rintro rfl
    exact absent row member rfl
  rw [read?, unlisted]
  dsimp only
  split
  · rfl
  split
  · rfl
  · rename_i reached found
    have nowhere : files.rows.find? (fun row =>
        isAbsolute row.1 = isAbsolute path && (parts row.1).foldl step [] = reached) = none := by
      rw [List.find?_eq_none]
      intro row member
      have apart := absent row member
      rw [place, place, ← reach?_eq_some found] at apart
      simp [apart]
    rw [nowhere]
    rfl

theorem textOf_toUTF8 (text : String) : textOf text.toUTF8 = withoutMark text := by
  rw [textOf, Text.Utf8.repair_toUTF8, String.ofList_toList]

/-- What is read in a file. -/
def marked (path : String) (rows : Rows) : Rows := ⟨Node.markRows (some (.file path)) rows.rows⟩

theorem document_eq {library : Library} {files : Files} {name path text : String} {format : Format} {rows : Rows}
    (found : files.find library name = .ok (format, path, text.toUTF8))
    (read : library.read format (withoutMark text) = .ok rows) (required : Bool) :
    files.document library required name = .ok (marked path rows) := by
  rw [document, found]
  dsimp only
  rw [textOf_toUTF8, read]
  rfl

end Files

/-! ### What layers say -/

/-- What a row of a layer says of a key: the row is the key's section, or the key alone. -/
def inRow (key : Key) (row : String × Node) : Option Node :=
  match Path.ofKey row.1 with
  | [.key group] => if group = key.group.name then latest key.name row.2.rows.rows else none
  | [.key group, .key name] => if group = key.group.name ∧ name = key.name then some row.2 else none
  | _ => none

/-- What the rows of a layer say of a key; the last one counts. -/
def mentioned (key : Key) (rows : List (String × Node)) : Option Node := rows.findSomeRev? (inRow key)

theorem mentioned_cons (key : Key) (row : String × Node) (rows : List (String × Node)) :
    mentioned key (row :: rows) = (mentioned key rows).or (inRow key row) := findSomeRev?_cons ..

/-- What a row of a section may be: all of it as a table, or one name in it. -/
def Suits (rest : List Path.Step) (node : Node) : Prop := rest = [] ∧ node.IsTable ∨ ∃ name, rest = [.key name]

instance (rest : List Path.Step) (node : Node) : Decidable (Suits rest node) :=
  match rest with
  | [] => decidable_of_iff node.IsTable (by simp [Suits])
  | [.key name] => isTrue (.inr ⟨name, rfl⟩)
  | [.index _] | _ :: _ :: _ => isFalse (by simp [Suits])

/-- The row is of no section, or suits its section. -/
def Fits (row : String × Node) : Prop :=
  ∀ (group : Group) rest, Path.ofKey row.1 = .key group.name :: rest → Suits rest row.2

theorem Group.exists_key (group : Group) : ∃ key : Key, key.group = group := by
  cases group with
  | server => exact ⟨.host, rfl⟩
  | logging => exact ⟨.level, rfl⟩
  | database => exact ⟨.url, rfl⟩
  | feed => exact ⟨.policy, rfl⟩
  | notifier => exact ⟨.channelCapacity, rfl⟩
  | warmer => exact ⟨.interval, rfl⟩

theorem fits_iff (row : String × Node) :
    (∀ key ∈ Key.all, (Path.ofKey row.1).head? = some (.key key.group.name) → Suits (Path.ofKey row.1).tail row.2) ↔
      Fits row := by
  constructor
  · intro suits group rest path
    obtain ⟨key, rfl⟩ := group.exists_key
    simpa [path] using suits key key.mem_all
  · intro fits key _ head
    obtain ⟨rest, path⟩ := List.head?_eq_some_iff.mp head
    rw [path]
    exact fits key.group rest path

instance (row : String × Node) : Decidable (Fits row) := decidable_of_iff _ (fits_iff row)

/-- All sections of the document are tables. -/
def Sectioned (document : Node) : Prop :=
  ∀ (group : Group) node, document.rows.get? group.name = some node → node.IsTable

/-- What a document has for a key. -/
def find? (document : Node) (key : Key) : Option Node :=
  (document.rows.get? key.group.name).bind fun table => table.rows.get? key.name

theorem inRow_of_ne {key : Key} {row : String × Node} {name : String} {rest : List Path.Step}
    (path : Path.ofKey row.1 = .key name :: rest) (other : name ≠ key.group.name) : inRow key row = none := by
  unfold inRow
  rw [path]
  obtain _ | ⟨step | step, _ | _⟩ := rest <;> simp [other]

theorem get?_section (document : Node) (key : Key) :
    ((document.rows.get? key.group.name).getD Node.null).rows.get? key.name = find? document key := by
  unfold find?
  cases document.rows.get? key.group.name <;> rfl

section
variable {document : Node} {row : String × Node} (fits : Fits row) (sectioned : Sectioned document)
include fits

theorem sectioned_put (sectioned : Sectioned document) : Sectioned (row.2.put (Path.ofKey row.1) document) := by
  intro group node found
  obtain ⟨name, rest, path⟩ := Path.ofKey_head row.1
  rw [path, Node.put, Node.rows, Table.get?_set] at found
  split at found
  · rename_i same
    cases found
    obtain ⟨rfl, rows, origin, table⟩ | ⟨inner, rfl⟩ := fits group rest (same ▸ path)
    · rw [table, Node.put]
      exact ⟨_, _, by rw [Node.onto]⟩
    · exact ⟨_, _, by rw [Node.put]⟩
  · exact sectioned group node found

theorem find?_put {key : Key} (plain : ∀ value, inRow key row = some value → ¬value.IsTable) :
    find? (row.2.put (Path.ofKey row.1) document) key = (inRow key row).or (find? document key) := by
  obtain ⟨name, rest, path⟩ := Path.ofKey_head row.1
  by_cases same : name = key.group.name
  · subst same
    rw [← get?_section document key]
    obtain ⟨rfl, ⟨rows⟩, origin, table⟩ | ⟨inner, rfl⟩ := fits key.group rest path
    · have said : inRow key row = latest key.name rows := by
        simp [inRow, path, table, Node.rows]
      rw [said] at plain ⊢
      rw [path, find?, Node.put, Node.rows, Table.get?_set_self, table, Option.bind_some, Node.put, Node.onto,
        ← Node.get?_ontoRows plain]
      rfl
    · rw [path, find?, Node.put, Node.rows, Table.get?_set_self, Option.bind_some, Node.put, Node.rows, Table.get?_set,
        Node.put]
      by_cases same : key.name = inner
      · have said : inRow key row = some row.2 := by simp [inRow, path, same]
        rw [if_pos same, said, Node.onto_of_plain (plain _ said)]
        rfl
      · have said : inRow key row = none := by simp [inRow, path, Ne.symm same]
        rw [if_neg same, said]
        rfl
  · rw [inRow_of_ne path same, path, find?, Node.put, Node.rows, Table.get?_set_of_ne _ _ (Ne.symm same)]
    rfl

end

/-- A layer leaves the last that it says of a key. -/
theorem find?_overlay {rows : List (String × Node)} (fit : ∀ row ∈ rows, Fits row) {document : Node}
    (sectioned : Sectioned document) :
    Sectioned (Node.overlay ⟨rows⟩ document) ∧ ∀ key, (∀ value, mentioned key rows = some value → ¬value.IsTable) →
      find? (Node.overlay ⟨rows⟩ document) key = (mentioned key rows).or (find? document key) := by
  induction rows generalizing document with
  | nil => exact ⟨sectioned, fun key _ => rfl⟩
  | cons row rows ih =>
    obtain ⟨first, fit⟩ := List.forall_mem_cons.mp fit
    obtain ⟨kept, found⟩ := ih fit (sectioned_put first sectioned)
    refine ⟨kept, ?_⟩
    intro key plain
    rw [mentioned_cons] at plain ⊢
    change find? (Node.overlay ⟨rows⟩ (row.2.put (Path.ofKey row.1) document)) key = _
    rw [found key fun value said => plain value (by rw [said]; rfl)]
    -- Where a later row is of the key, nothing has to be known of this one.
    cases said : mentioned key rows with
    | some value => rfl
    | none =>
      rw [said] at plain
      exact find?_put first plain

/-! ### What keys are given -/

/-- A part of a document as the value of a key, if it can be converted. -/
def Key.value? (key : Key) (node : Node) : Option key.kind.Value :=
  match ofNode key key.path node with
  | .ok value => value
  | .error _ => none

/-- The values that a layer gives to keys. -/
def gives (layer : Rows) : Draft := fun key => (mentioned key layer.rows).bind key.value?

/-- A layer of settings: its sections are tables, and what it says of a key can be converted and is not null. -/
structure Layer (layer : Rows) : Prop where
  fit : ∀ row ∈ layer.rows, Fits row
  converts : ∀ key node, mentioned key layer.rows = some node → ∃ value, ofNode key key.path node = .ok (some value)

theorem isSome_value?_iff (key : Key) (node : Node) :
    (key.value? node).isSome ↔ ∃ value, ofNode key key.path node = .ok (some value) := by
  unfold Key.value?
  cases ofNode key key.path node with
  | error mismatch => exact ⟨nofun, nofun⟩
  | ok value => simp [Option.isSome_iff_exists]

theorem layer_iff (layer : Rows) :
    ((∀ row ∈ layer.rows, Fits row) ∧
      ∀ key ∈ Key.all, ∀ node ∈ mentioned key layer.rows, (key.value? node).isSome) ↔ Layer layer := by
  constructor
  · rintro ⟨fit, converts⟩
    exact ⟨fit, fun key node said => (isSome_value?_iff key node).mp (converts key key.mem_all node said)⟩
  · rintro ⟨fit, converts⟩
    exact ⟨fit, fun key _ node said => (isSome_value?_iff key node).mpr (converts key node said)⟩

instance (layer : Rows) : Decidable (Layer layer) := decidable_of_iff _ (layer_iff layer)

theorem Layer.plain {layer : Rows} (good : Layer layer) {key : Key} {node : Node}
    (said : mentioned key layer.rows = some node) : ¬node.IsTable := by
  rintro ⟨rows, origin, rfl⟩
  obtain ⟨value, converted⟩ := good.converts key _ said
  cases converted

/-- A layer gives values to the keys that it mentions. -/
theorem Layer.isSome_gives_iff {layer : Rows} (good : Layer layer) {key : Key} :
    (gives layer key).isSome ↔ (mentioned key layer.rows).isSome := by
  rw [gives]
  cases said : mentioned key layer.rows with
  | none => rfl
  | some node =>
    have converted := (isSome_value?_iff key node).mpr (good.converts key node said)
    simp [converted]

/-- Layers laid over one another key by key, the lowest first. -/
def given (layers : List Rows) : Draft := layers.foldl (fun lower layer => (gives layer).onto lower) .empty

/-- What a document has for each key is the value of a draft. -/
def Holds (document : Node) (draft : Draft) : Prop :=
  Sectioned document ∧ ∀ key, valueOf document key = .ok (draft key)

theorem valueOf_eq {document : Node} (sectioned : Sectioned document) (key : Key) :
    valueOf document key = match find? document key with
      | none => .ok none
      | some node => ofNode key key.path node := by
  unfold valueOf find?
  cases found : document.rows.get? key.group.name with
  | none => rfl
  | some node =>
    obtain ⟨rows, origin, rfl⟩ := sectioned key.group node found
    cases inner : rows.get? key.name <;> simp [Node.rows, inner]

theorem holds_overlay {document : Node} {draft : Draft} (holds : Holds document draft) {layer : Rows}
    (good : Layer layer) : Holds (Node.overlay layer document) ((gives layer).onto draft) := by
  obtain ⟨sectioned, values⟩ := holds
  obtain ⟨kept, found⟩ := find?_overlay good.fit sectioned
  refine ⟨kept, ?_⟩
  intro key
  have before := values key
  rw [valueOf_eq sectioned] at before
  rw [valueOf_eq kept, found key fun node said => good.plain said, Draft.onto, gives]
  cases said : mentioned key layer.rows with
  | none => exact before
  | some node =>
    obtain ⟨value, converted⟩ := good.converts key node said
    simp [Key.value?, converted]

theorem holds_layers {layers : List Rows} (good : ∀ layer ∈ layers, Layer layer) {document : Node} {draft : Draft}
    (holds : Holds document draft) :
    Holds (layers.foldl (fun lower layer => Node.overlay layer lower) document)
      (layers.foldl (fun lower layer => (gives layer).onto lower) draft) := by
  induction layers generalizing document draft with
  | nil => exact holds
  | cons layer layers ih =>
    obtain ⟨first, good⟩ := List.forall_mem_cons.mp good
    exact ih good (holds_overlay holds first)

theorem ofDocument_eq {document : Node} {draft : Draft} (holds : Holds document draft) :
    Draft.ofDocument document = .ok draft := by
  unfold Draft.ofDocument
  split
  · rename_i mismatch found
    obtain ⟨key, -, wrong⟩ := List.exists_of_findSome?_eq_some found
    rw [holds.2 key] at wrong
    cases wrong
  · refine congrArg Except.ok ?_
    funext key
    rw [holds.2 key]

/-- Each key has its value from the highest layer that says something of it. -/
theorem loadDraft_eq {library : Library} {files : Files} {env : Environment} {named : Option String}
    {documents : List Rows} (read : layers library files env named = .ok documents)
    (good : ∀ layer ∈ documents, Layer layer) :
    loadDraft library files env named = .ok (given documents) := by
  have empty : Holds (.table .empty none) .empty := by
    refine ⟨nofun, fun key => rfl⟩
  unfold loadDraft
  rw [read]
  change ((Draft.ofDocument _).mapError _) = _
  rw [ofDocument_eq (holds_layers good empty)]
  rfl

end Settings
end FeedFanout
