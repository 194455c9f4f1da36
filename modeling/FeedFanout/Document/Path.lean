import FeedFanout.Document.Basic
import FeedFanout.Decimal.Integer

/-!
Paths into documents: a name, then names behind dots and positions in brackets. A position below zero counts from the
end. `Node.put` changes the part of a tree that a path leads to and makes the parts on the way as it needs them.
-/
namespace FeedFanout

namespace Path

inductive Step
  | key (name : String)
  | index (position : Int)
deriving DecidableEq, Repr

def isNameChar (c : Char) : Bool := c.isAlphanum || c = '_' || c = '-'

/-- A name of at least one character, and what follows it. -/
def name? (cs : List Char) : Option (Step × List Char) :=
  match cs.takeWhile isNameChar with
  | [] => none
  | name => some (.key (String.ofList name), cs.dropWhile isNameChar)

def isGap (c : Char) : Bool := c = ' ' || c = '\t'

/-- The largest position, either way. -/
def largest : Nat := 2 ^ 63 - 1

/-- A position and the bracket behind it, blanks around the digits. -/
def index? (cs : List Char) : Option (Step × List Char) :=
  let inner := (cs.takeWhile (· ≠ ']')).dropWhile isGap
  let digits := (inner.reverse.dropWhile isGap).reverse
  match digits.head?, cs.dropWhile (· ≠ ']') with
  | some '+', _ => none
  | some _, _ :: rest =>
    match Decimal.parseInt largest digits with
    | .ok position => some (.index position, rest)
    | .error _ => none
  | _, _ => none

/-- The steps behind the first name, at most `fuel`. -/
def steps? : Nat → List Char → Option (List Step)
  | _, [] => some []
  | 0, _ => none
  | fuel + 1, '.' :: cs => do
    let (step, rest) ← name? cs
    return step :: (← steps? fuel rest)
  | fuel + 1, '[' :: cs => do
    let (step, rest) ← index? cs
    return step :: (← steps? fuel rest)
  | _, _ => none

/-- The steps of a text that is a path. -/
def parse? (s : String) : Option (List Step) := do
  let (first, rest) ← name? s.toList
  return first :: (← steps? rest.length rest)

/-- A text that is no path is one key. -/
def ofKey (s : String) : List Step := (parse? s).getD [.key s]

end Path

namespace Node

/-- The items of a list; none for anything else. -/
def items : Node → List Node
  | .list items _ => items
  | _ => []

/-- The origin of a list that is changed. Anything else gives way to a new list, which has none. -/
def listOrigin : Node → Option Origin
  | .list _ origin => origin
  | _ => none

def tableOrigin : Node → Option Origin
  | .table _ origin => origin
  | _ => none

/-- A position counted from the front, and how many places have to be made there first. -/
def place (position : Int) (length : Nat) : Nat × Nat :=
  if 0 ≤ position then (position.toNat, 0)
  else if position.natAbs ≤ length then (length - position.natAbs, 0)
  else (0, position.natAbs - length)

/-- Lays a value over the part of a tree at the end of a path. -/
def put (value : Node) : List Path.Step → Node → Node
  | [], node => value.onto node
  | .key name :: path, node =>
    .table (node.rows.set name (value.put path ((node.rows.get? name).getD null))) node.tableOrigin
  | .index position :: path, node =>
    let (index, made) := place position node.items.length
    let items := List.replicate made null ++ node.items
    let items := items ++ List.replicate (index + 1 - items.length) null
    .list (items.modify index (value.put path)) node.listOrigin

/-- A layer laid over a tree: each of its keys is a path. -/
def overlay (layer : Rows) (lower : Node) : Node :=
  layer.rows.foldl (fun node (key, value) => value.put (Path.ofKey key) node) lower

end Node

end FeedFanout
