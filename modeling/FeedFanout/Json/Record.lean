import FeedFanout.Json.Number
import FeedFanout.Text.Quoted

/-!
Records written in JSON. A record is read from an object, whose members may come in any order and among others that
are passed over, or from an array of the field values in order. The first fault in reading order is reported, with the
position where it was noticed.
-/
namespace FeedFanout.Json

/-- A value of another kind than the one expected. -/
inductive Found
  | null
  | boolean (value : Bool)
  | integer (value : Int)
  | float (value : Float)
  | string (value : String)
  | sequence
  | map

def Found.text : Found → String
  | .null => "null"
  | .boolean true => "boolean `true`"
  | .boolean false => "boolean `false`"
  | .integer value => s!"integer `{value}`"
  | .float value => s!"floating point `{Decimal.laidOut Number.layout value}`"
  | .string value => "string " ++ Text.Quoted.encode value
  | .sequence => "sequence"
  | .map => "map"

/-- Why a document is not the record asked for. `Custom` are the reasons of the fields' own formats. -/
inductive Fault (Custom : Type)
  | flaw (flaw : Flaw)
  | missing (field : String)
  | duplicate (field : String)
  | length (found : Nat) (expected : String)
  | mismatch (found : Found) (expected : String)
  | custom (cause : Custom)

namespace Fault

/-- The document breaks the grammar, rather than holding another value than the one expected. -/
def isGrammar {Custom : Type} : Fault Custom → Bool
  | .flaw _ => true
  | _ => false

def message {Custom : Type} (custom : Custom → String) : Fault Custom → String
  | .flaw f => f.message
  | .missing field => s!"missing field `{field}`"
  | .duplicate field => s!"duplicate field `{field}`"
  | .length found expected => s!"invalid length {found}, expected {expected}"
  | .mismatch found expected => s!"invalid type: {found.text}, expected {expected}"
  | .custom cause => custom cause

end Fault

/-- What a reader or a writer of documents fails with. -/
structure Error (Custom : Type) where
  fault : Fault Custom
  /-- Where it was noticed; nowhere if there is no document yet. -/
  position : Option Position

def Error.message {Custom : Type} (custom : Custom → String) (e : Error Custom) : String :=
  match e.position with
  | some position => s!"{e.fault.message custom} at line {position.line} column {position.column}"
  | none => e.fault.message custom

/-- The part of a record that a fault lies in. -/
inductive Place
  | whole
  | field (name : String)
  | element (index : Nat)
deriving DecidableEq, Repr

structure Failure (Custom : Type) where
  place : Place
  error : Error Custom

/-- Where reading comes to a halt: at a fault, with so many bytes still to come. -/
structure Halt (Custom : Type) where
  fault : Fault Custom
  left : Nat
  place : Place := .whole

variable {Custom σ : Type}

def Halt.flaw (found : Flaw × Nat) : Halt Custom := ⟨.flaw found.1, found.2, .whole⟩

/-- The halt in terms of the document. -/
def Halt.failure (halt : Halt Custom) (document : Input) : Failure Custom :=
  ⟨halt.place, halt.fault, some (document.position halt.left)⟩

/-- At the first character that is not as it must be; `ends` if there is none. -/
def unexpected (flaw ends : Flaw) (input : Input) : Halt Custom :=
  .flaw (if input.isEmpty then (ends, 0) else (flaw, input.size - 1))

/-- A value of a kind that is not expected. Its own faults come first. -/
def mismatch (expected : String) (input : Input) : Halt Custom :=
  let word (letters : List Char) (found : Found) : Halt Custom :=
    if (letters.map some).isPrefixOf input then ⟨.mismatch found expected, Input.size (input.drop letters.length), .whole⟩
    else .flaw (Skip.flaw input)
  match input with
  | some 'n' :: _ => word ['n', 'u', 'l', 'l'] .null
  | some 't' :: _ => word ['t', 'r', 'u', 'e'] (.boolean true)
  | some 'f' :: _ => word ['f', 'a', 'l', 's', 'e'] (.boolean false)
  | some '"' :: rest =>
    match Text.read? rest with
    | some (cs, rest) => ⟨.mismatch (.string (String.ofList cs)) expected, Input.size rest, .whole⟩
    | none => .flaw (Text.flaw rest)
  | some '[' :: _ => ⟨.mismatch .sequence expected, input.size, .whole⟩
  | some '{' :: _ => ⟨.mismatch .map expected, input.size, .whole⟩
  | c :: _ =>
    if c = some '-' || isDigit c then
      match Number.read? input with
      | some (.whole n, rest) => ⟨.mismatch (.integer n) expected, Input.size rest, .whole⟩
      | some (.float x, rest) => ⟨.mismatch (.float x) expected, Input.size rest, .whole⟩
      | none => .flaw (Number.flaw input)
    else unexpected .value .valueEnds input
  | [] => unexpected .value .valueEnds input

/-- The text of a string value. -/
def readString (expected : String) (input : Input) : Except (Halt Custom) (List Char × Input) :=
  match skipSpace input with
  | some '"' :: rest =>
    match Text.read? rest with
    | some answer => .ok answer
    | none => .error (.flaw (Text.flaw rest))
  | input => .error (mismatch expected input)

/-- One field of a record that is read into a draft. -/
structure Field (Custom σ : Type) where
  name : String
  /-- The draft has this field. -/
  has : σ → Bool
  /-- Puts a value into the draft. -/
  read : σ → Input → Except (Halt Custom) (σ × Input)

/-- How a record is written. -/
structure Format (Custom σ : Type) where
  title : String
  fields : List (Field Custom σ)
  blank : σ

namespace Format
variable (format : Format Custom σ)

def sized : String :=
  let n := format.fields.length
  s!"{format.title} with {n} element" ++ if n = 1 then "" else "s"

/-- What halts here lies in a part of the record. -/
def within (place : Place) (result : Except (Halt Custom) (σ × Input)) : Except (Halt Custom) (σ × Input) :=
  result.mapError ({ · with place })

/-- A field that a draft has already. The object is left behind if it ends here. -/
def repeated (name : String) (input : Input) : Halt Custom :=
  let left := match skipSpace input with
    | some '}' :: rest => Input.size rest
    | input => Input.size input
  ⟨.duplicate name, left, .whole⟩

/-- The value of a member whose name has been read. -/
def member (draft : σ) (name : String) (input : Input) : Except (Halt Custom) (σ × Input) :=
  let field := format.fields.find? (·.name = name)
  if field.any (·.has draft) then .error (repeated name input)
  else within (.field name) <| match skipSpace input with
    | some ':' :: rest =>
      match field with
      | some field => field.read draft rest
      | none =>
        match Skip.value? rest with
        | some rest => .ok (draft, rest)
        | none => .error (.flaw (Skip.flaw rest))
    | input => .error (unexpected .colon .objectEnds input)

/-- A draft at the closing brace. -/
def close (draft : σ) (rest : Input) : Except (Halt Custom) (σ × Input) :=
  match format.fields.find? (!·.has draft) with
  | some field => .error ⟨.missing field.name, rest.size, .whole⟩
  | none => .ok (draft, rest)

/-- No name of a member. -/
def nameless (first : Bool) (input : Input) : Halt Custom :=
  if first then unexpected .key .objectEnds input
  else unexpected (if input.head? = some (some '}') then .comma else .key) .valueEnds input

/-- The members from the name of one on. `fuel` bounds their number. -/
def members : Nat → Bool → σ → Input → Except (Halt Custom) (σ × Input)
  | 0, first, _, input => .error (nameless first input)
  | fuel + 1, first, draft, input =>
    match skipSpace input with
    | some '"' :: rest =>
      match Text.read? rest with
      | none => .error (.flaw (Text.flaw rest))
      | some (name, rest) =>
        match format.member draft (String.ofList name) rest with
        | .error e => .error e
        | .ok (draft, rest) =>
          match skipSpace rest with
          | some ',' :: rest => members fuel false draft rest
          | some '}' :: rest => format.close draft rest
          | rest => .error (unexpected .objectComma .objectEnds rest)
    | input => .error (nameless first input)

/-- The members behind an opening brace. -/
def object (input : Input) : Except (Halt Custom) (σ × Input) :=
  match skipSpace input with
  | some '}' :: rest => format.close format.blank rest
  | input => format.members input.length true format.blank input

/-- No end of an array behind its last element. -/
def endless (input : Input) : Halt Custom :=
  match input with
  | some ',' :: rest =>
    let rest := skipSpace rest
    .flaw (if rest.head? = some (some ']') then .comma else .trailing, rest.size - 1)
  | input => unexpected .trailing .listEnds input

/-- The elements for the remaining fields, `index` of them being read. -/
def elements (index : Nat) (draft : σ) : List (Field Custom σ) → Input → Except (Halt Custom) (σ × Input)
  | [], input =>
    match skipSpace input with
    | some ']' :: rest => .ok (draft, rest)
    | input => .error (endless input)
  | field :: fields, input =>
    match skipSpace input, index with
    | some ']' :: rest, _ => .error ⟨.length index format.sized, Input.size rest, .whole⟩
    | [], _ => within (.element index) (.error (unexpected .value .listEnds []))
    | input, 0 =>
      match within (.element index) (field.read draft input) with
      | .error e => .error e
      | .ok (draft, rest) => elements (index + 1) draft fields rest
    | some ',' :: rest, _ =>
      if (skipSpace rest).head? = some (some ']') then
        within (.element index) (.error (unexpected .comma .valueEnds (skipSpace rest)))
      else match within (.element index) (field.read draft rest) with
      | .error e => .error e
      | .ok (draft, rest) => elements (index + 1) draft fields rest
    | input, _ => within (.element index) (.error (unexpected .listComma .listEnds input))

/-- The record at the front of the input. -/
def value (input : Input) : Except (Halt Custom) (σ × Input) :=
  match skipSpace input with
  | some '{' :: rest => format.object rest
  | some '[' :: rest => format.elements 0 format.blank format.fields rest
  | input => .error (mismatch format.title input)

/-- A document that holds the record and nothing else. -/
def read (input : Input) : Except (Failure Custom) σ :=
  let read : Except (Halt Custom) σ :=
    match format.value input with
    | .error halt => .error halt
    | .ok (draft, rest) =>
      let rest := skipSpace rest
      if rest.isEmpty then .ok draft else .error (unexpected .trailing .valueEnds rest)
  read.mapError (·.failure input)

end Format

end FeedFanout.Json
