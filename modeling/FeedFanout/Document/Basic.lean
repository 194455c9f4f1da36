import FeedFanout.Table

/-!
Documents of settings: trees of tables and lists with plain values at the leaves, each part with the place it was
read from. `Node.onto` lays one tree over another, key by key.
-/
namespace FeedFanout

/-- Where a part of a document was read. -/
inductive Origin
  | file (path : String)
  | environment
deriving DecidableEq, Repr

def Origin.text : Origin → String
  | .file path => path
  | .environment => "the environment"

inductive Scalar
  | null
  | boolean (value : Bool)
  | integer (value : Int)
  | float (value : Float)
  | text (value : String)

inductive Node
  | scalar (value : Scalar) (origin : Option Origin)
  | list (items : List Node) (origin : Option Origin)
  | table (rows : Table String Node) (origin : Option Origin)

/-- The rows of a table. -/
abbrev Rows := Table String Node

namespace Node

instance : Inhabited Node := ⟨.scalar .null none⟩

def null : Node := default

def origin : Node → Option Origin
  | .scalar _ origin => origin
  | .list _ origin => origin
  | .table _ origin => origin

/-- The rows of a table; none for anything else. -/
def rows : Node → Rows
  | .table rows _ => rows
  | _ => .empty

mutual

/-- The tree with one origin for all its parts. -/
def mark (origin : Option Origin) : Node → Node
  | .scalar value _ => .scalar value origin
  | .list items _ => .list (markList origin items) origin
  | .table ⟨rows⟩ _ => .table ⟨markRows origin rows⟩ origin

def markList (origin : Option Origin) : List Node → List Node
  | [] => []
  | item :: items => item.mark origin :: markList origin items

def markRows (origin : Option Origin) : List (String × Node) → List (String × Node)
  | [] => []
  | (key, value) :: rows => (key, value.mark origin) :: markRows origin rows

end

mutual

/-- A tree laid over another. Tables are joined key by key, and then belong to no single place; all else replaces
what it is laid over. -/
def onto (upper : Node) (lower : Node) : Node :=
  match upper with
  | .table ⟨rows⟩ _ => .table (ontoRows rows lower.rows) none
  | upper => upper

/-- Rows laid over a table, one after the other. -/
def ontoRows : List (String × Node) → Rows → Rows
  | [], lower => lower
  | (key, value) :: rows, lower => ontoRows rows (lower.set key (value.onto ((lower.get? key).getD null)))

end

end Node

end FeedFanout
