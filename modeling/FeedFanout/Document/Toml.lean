import FeedFanout.Document.Toml.Grid
import FeedFanout.Document.Toml.Moment
import FeedFanout.Document.Toml.Number
import FeedFanout.Document.Toml.Text

/-!
TOML documents as trees. Dates and times become texts. Brackets nest at most `Toml.depth` deep; line breaks, comments
and a last comma may stand in lists and in tables on one line.
-/
namespace FeedFanout.Document.Toml

/-- The deepest nesting of brackets. -/
def depth : Nat := 80

/-! ### Values -/

def isWordChar (c : Char) : Bool := c.isAlphanum || c = '_' || c = '-' || c = '+' || c = '.' || c = ':'

/-- A word, and with a date of ten characters what stands behind one blank, if it starts with a digit. -/
def word (cs : List Char) : List Char :=
  let first := cs.takeWhile isWordChar
  match cs.drop first.length with
  | ' ' :: c :: rest =>
    if (Decimal.digitValue? c).isSome && first.length = 10 && (date? first).isSome then
      first ++ ' ' :: (c :: rest).takeWhile isWordChar
    else first
  | _ => first

def ofWord? (word : List Char) : Option Scalar :=
  if word = ['t', 'r', 'u', 'e'] then some (.boolean true)
  else if word = ['f', 'a', 'l', 's', 'e'] then some (.boolean false)
  else match integer? word with
    | some n => some (.integer n)
    | none => match float? word with
      | some x => some (.float x)
      | none => (moment? word).map fun moment => .text moment.text

/-- Items up to the closing bracket, with commas between them and perhaps behind the last; `fuel` bounds their
number. -/
def items? {α : Type} (close : Char) (item : α → List Char → Option (α × List Char)) :
    Nat → α → List Char → Option (α × List Char)
  | 0, _, _ => none
  | fuel + 1, before, cs =>
    match skipSpace cs with
    | [] => none
    | c :: rest =>
      if c = close then some (before, rest)
      else match item before (c :: rest) with
        | none => none
        | some (before, rest) =>
          match skipSpace rest with
          | ',' :: rest => items? close item fuel before rest
          | c :: rest => if c = close then some (before, rest) else none
          | [] => none

/-- A key, an equals sign and a value, put into the table `header` of a grid. -/
def assignment? (value? : List Char → Option (Node × List Char)) (header : List String) (grid : Grid)
    (cs : List Char) : Option (Grid × List Char) := do
  let (path, last, rest) ← key? cs.length cs
  match skipGap rest with
  | '=' :: rest =>
    let (node, rest) ← value? (skipGap rest)
    return (← grid.assign? header path last node, rest)
  | _ => none

/-- A value with at most `depth` brackets around one another, and what follows it. -/
def value? (depth : Nat) (cs : List Char) : Option (Node × List Char) :=
  match cs with
  | '[' :: rest =>
    match depth with
    | 0 => none
    | depth + 1 =>
      let item (before : List Node) (cs : List Char) := (value? depth cs).map fun (node, rest) => (node :: before, rest)
      (items? ']' item (rest.length + 1) [] rest).map fun (items, rest) => (.list items.reverse none, rest)
  | '\x7b' :: rest =>
    match depth with
    | 0 => none
    | depth + 1 =>
      (items? '\x7d' (assignment? (value? depth) []) (rest.length + 1) Table.empty rest).map fun (grid, rest) =>
        (.table (Grid.toRows grid) none, rest)
  | cs =>
    if cs.head? = some '"' ∨ cs.head? = some '\'' then
      (string? cs).map fun (s, rest) => (.scalar (.text (String.ofList s)) none, rest)
    else
      let token := word cs
      (ofWord? token).map fun scalar => (.scalar scalar none, cs.drop token.length)

/-! ### Statements -/

/-- The table that keys belong to, and all tables so far. -/
structure Draft where
  header : List String
  grid : Grid

/-- A header up to its closing brackets. -/
def header? (cs : List Char) : Option (List String × String × List Char) := key? cs.length (skipGap cs)

/-- One statement and the rest of its line. -/
def statement? (draft : Draft) (cs : List Char) : Option (Draft × List Char) :=
  match cs with
  | '[' :: '[' :: rest => do
    let (path, last, rest) ← header? rest
    match skipGap rest with
    | ']' :: ']' :: rest => return (⟨path ++ [last], ← draft.grid.openItem? path last⟩, ← endLine? rest)
    | _ => none
  | '[' :: rest => do
    let (path, last, rest) ← header? rest
    match skipGap rest with
    | ']' :: rest => return (⟨path ++ [last], ← draft.grid.openTable? path last⟩, ← endLine? rest)
    | _ => none
  | cs => do
    let (grid, rest) ← assignment? (value? depth) draft.header draft.grid cs
    return (⟨draft.header, grid⟩, ← endLine? rest)

/-- All statements; `fuel` bounds their number. -/
def statements? : Nat → Draft → List Char → Option Grid
  | 0, _, _ => none
  | fuel + 1, draft, cs =>
    match skipSpace cs with
    | [] => some draft.grid
    | cs =>
      match statement? draft cs with
      | some (draft, rest) => statements? fuel draft rest
      | none => none

/-- The tables of a document. A mark of the byte order may stand at its front. -/
def read? (text : String) : Option Rows :=
  let cs := match text.toList with
    | '\uFEFF' :: cs => cs
    | cs => cs
  (statements? (cs.length + 1) ⟨[], Table.empty⟩ cs).map Grid.toRows

end FeedFanout.Document.Toml
