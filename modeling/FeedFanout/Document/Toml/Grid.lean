import FeedFanout.Document.Basic

/-!
Tables of a TOML document while it is read. A table may be added to or not, by the way it came to be: no key is given
twice, no table is opened twice, and a table made by one kind of statement is not extended by another.
-/
namespace FeedFanout.Document.Toml

/-- How a table came to be. -/
inductive Making
  /-- By the header of a table inside it. -/
  | implied
  /-- By a dotted key. -/
  | dotted
  /-- By its own header. -/
  | opened
deriving DecidableEq, Repr

inductive Entry
  /-- A value, closed once and for all. -/
  | value (node : Node)
  | table (making : Making) (rows : Table String Entry)
  /-- Tables with one header each; the latest stands apart. -/
  | tables (earlier : List (Table String Entry)) (latest : Table String Entry)

abbrev Grid := Table String Entry

namespace Entry

mutual

def node : Entry → Node
  | .value node => node
  | .table _ ⟨rows⟩ => .table ⟨nodeRows rows⟩ none
  | .tables earlier ⟨latest⟩ => .list (nodeTables earlier ++ [.table ⟨nodeRows latest⟩ none]) none

def nodeRows : List (String × Entry) → List (String × Node)
  | [] => []
  | (key, entry) :: rows => (key, entry.node) :: nodeRows rows

def nodeTables : List (Table String Entry) → List Node
  | [] => []
  | ⟨rows⟩ :: earlier => nodeTables earlier ++ [.table ⟨nodeRows rows⟩ none]

end

end Entry

namespace Grid

def toRows (grid : Grid) : Rows := ⟨Entry.nodeRows grid.rows⟩

/-- Changes the table at the end of a path, making the tables on the way that are missing. Each step says whether it
belongs to a dotted key. -/
def within? (change : Making → Grid → Option Grid) : List (String × Bool) → Making → Grid → Option Grid
  | [], making, grid => change making grid
  | (key, dotted) :: path, _, grid => do
    let entry ← match grid.get? key with
      | none =>
        let making : Making := if dotted then .dotted else .implied
        (within? change path making .empty).map (Entry.table making)
      | some (.table making inner) =>
        if dotted && making = .opened then none else (within? change path making inner).map (Entry.table making)
      | some (.tables earlier latest) => (within? change path .opened latest).map (Entry.tables earlier)
      | some (.value _) => none
    return grid.set key entry

def ofHeader (path : List String) : List (String × Bool) := path.map (·, false)
def ofKey (path : List String) : List (String × Bool) := path.map (·, true)

/-- Opens a table that is not there yet, or only implied. -/
def openTable? (path : List String) (last : String) (grid : Grid) : Option Grid :=
  within? (fun _ grid => match grid.get? last with
    | none => some (grid.set last (.table .opened .empty))
    | some (.table .implied inner) => some (grid.set last (.table .opened inner))
    | some _ => none) (ofHeader path) .opened grid

/-- Opens one more of the tables under a key. -/
def openItem? (path : List String) (last : String) (grid : Grid) : Option Grid :=
  within? (fun _ grid => match grid.get? last with
    | none => some (grid.set last (.tables [] .empty))
    | some (.tables earlier latest) => some (grid.set last (.tables (latest :: earlier) .empty))
    | some _ => none) (ofHeader path) .opened grid

/-- Gives a key of the table under `header` its value. -/
def assign? (header path : List String) (last : String) (node : Node) (grid : Grid) : Option Grid :=
  within? (fun making grid =>
    if (making = .dotted) = path.isEmpty then none
    else match grid.get? last with
      | none => some (grid.set last (.value node))
      | some _ => none) (ofHeader header ++ ofKey path) .opened grid

end Grid

end FeedFanout.Document.Toml
