import FeedFanout.Json.Record

/-!
Values as they are written: texts, and objects with their members in order and without blank space. The name of a member
is a value like any other until it is written, and then it must be a text.
-/
namespace FeedFanout.Json

mutual

inductive Value
  | text (value : String)
  | object (members : Members)

inductive Members
  | nil
  | cons (name value : Value) (rest : Members)

end

def Value.writeName : Value → Except Flaw (List Char)
  | .text s => .ok (Text.encode s.toList)
  | .object _ => .error .key

mutual

def Value.write : Value → Except Flaw (List Char)
  | .text s => .ok (Text.encode s.toList)
  | .object members => do
    let members ← members.write
    return '{' :: List.intercalate [','] members ++ ['}']

/-- Each member by itself. -/
def Members.write : Members → Except Flaw (List (List Char))
  | .nil => .ok []
  | .cons name value rest => do
    let name ← name.writeName
    let value ← value.write
    let rest ← rest.write
    return (name ++ ':' :: value) :: rest

end

/-- A document that holds the value. -/
def Value.document {Custom : Type} (value : Value) : Except (Error Custom) String :=
  match value.write with
  | .ok cs => .ok (String.ofList cs)
  | .error flaw => .error ⟨.flaw flaw, none⟩

end FeedFanout.Json
