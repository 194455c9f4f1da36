import FeedFanout.Document.Basic
import FeedFanout.Json.Number

/-!
JSON documents as trees. Of two members with one name the later counts, and brackets nest at most `Json.depth` deep.
-/
namespace FeedFanout.Document.Json

open FeedFanout.Json (Input skipSpace)

/-- The deepest nesting of brackets. -/
def depth : Nat := 127

def ofNumber : FeedFanout.Json.Number → Scalar
  | .whole n => .integer n
  | .float x => .float x

/-- Items up to the closing bracket; `fuel` bounds their number. -/
def items? (item : Input → Option (Node × Input)) : Nat → Input → Option (List Node × Input)
  | 0, _ => none
  | fuel + 1, input => do
    let (first, input) ← item input
    match skipSpace input with
    | some ',' :: input =>
      let (rest, input) ← items? item fuel input
      return (first :: rest, input)
    | some ']' :: input => return ([first], input)
    | _ => none

/-- Members up to the closing brace, put into the rows read before them; `fuel` bounds their number. -/
def members? (item : Input → Option (Node × Input)) : Nat → Rows → Input → Option (Rows × Input)
  | 0, _, _ => none
  | fuel + 1, rows, input =>
    match skipSpace input with
    | some '"' :: input => do
      let (name, input) ← FeedFanout.Json.Text.read? input
      match skipSpace input with
      | some ':' :: input =>
        let (value, input) ← item input
        let rows := rows.set (String.ofList name) value
        match skipSpace input with
        | some ',' :: input => members? item fuel rows input
        | some '}' :: input => return (rows, input)
        | _ => none
      | _ => none
    | _ => none

/-- Drops a word from the front of the input. -/
def word? (word : List Char) (input : Input) : Option Input :=
  if input.take word.length = word.map some then some (input.drop word.length) else none

def plain (value : Scalar) : Node := .scalar value none

/-- A value with at most `depth` brackets around one another, and what follows it. -/
def value? (depth : Nat) (input : Input) : Option (Node × Input) :=
  match skipSpace input with
  | some '"' :: input =>
    (FeedFanout.Json.Text.read? input).map fun (s, input) => (plain (.text (String.ofList s)), input)
  | some 'n' :: input => (word? ['u', 'l', 'l'] input).map (plain .null, ·)
  | some 't' :: input => (word? ['r', 'u', 'e'] input).map (plain (.boolean true), ·)
  | some 'f' :: input => (word? ['a', 'l', 's', 'e'] input).map (plain (.boolean false), ·)
  | some '[' :: input =>
    match depth, skipSpace input with
    | 0, _ => none
    | _ + 1, some ']' :: input => some (.list [] none, input)
    | depth + 1, input => (items? (value? depth) input.length input).map fun (items, input) => (.list items none, input)
  | some '{' :: input =>
    match depth, skipSpace input with
    | 0, _ => none
    | _ + 1, some '}' :: input => some (.table .empty none, input)
    | depth + 1, input =>
      (members? (value? depth) input.length .empty input).map fun (rows, input) => (.table rows none, input)
  | input => (FeedFanout.Json.Number.read? input).map fun (number, input) => (plain (ofNumber number), input)

/-- The members of a document that is one object. -/
def read? (text : String) : Option Rows :=
  match value? depth (Input.ofString text) with
  | some (.table rows _, rest) => if (skipSpace rest).isEmpty then some rows else none
  | _ => none

end FeedFanout.Document.Json
