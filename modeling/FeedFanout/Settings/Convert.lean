import FeedFanout.Settings.Mismatch
import FeedFanout.Text.Lower

/-!
Values of documents as values of keys. Texts, numbers and booleans are taken for one another where that makes sense:
`on` counts one, a number is a flag unless it is zero, and numbers are texts.
-/
namespace FeedFanout.Settings

/-- A value as far as it was converted, or what is wrong with it and whether the message names its origin. -/
abbrev Converted (α : Type) := Except (Found × Expected × Bool) α

/-- Words for one and zero. -/
def switchWord? (s : String) : Option Bool :=
  let word := Text.lower s
  if word = "true" ∨ word = "on" ∨ word = "yes" then some true
  else if word = "false" ∨ word = "off" ∨ word = "no" then some false
  else none

/-- The whole number nearest to `x`, a half going away from zero, within unsigned 64 bits. -/
def nearest (x : Float) : Nat :=
  if x < 0.5 then 0
  else if x < 18446744073709551616.0 then x.round.toUInt64.toNat
  else if x.isNaN then 0
  else largest64

def toText : Scalar → Converted (Option String)
  | .null => .ok none
  | .boolean value => .ok (some (toString value))
  | .integer value => .ok (some (toString value))
  | .float value => .ok (some (Decimal.positional value))
  | .text value => .ok (some value)

def toFlag : Scalar → Converted (Option Bool)
  | .null => .ok none
  | .boolean value => .ok (some value)
  | .integer value => .ok (some (value ≠ 0))
  | .float value => .ok (some (value != 0))
  | .text value =>
    if value = "1" then .ok (some true)
    else if value = "0" then .ok (some false)
    else match switchWord? value with
      | some flag => .ok (some flag)
      | none => .error (.text (Text.lower value), .flag, true)

/-- A number of at most 64 bits. -/
def toNatural : Scalar → Converted (Option Nat)
  | .null => .ok none
  | .boolean value => .ok (some value.toNat)
  | .integer value => if 0 ≤ value then .ok (some value.toNat) else .error (.signed value, .nonnegative, true)
  | .float value => .ok (some (nearest value))
  | .text value =>
    match switchWord? value with
    | some flag => .ok (some flag.toNat)
    | none => match Decimal.parseNat largest64 value.toList with
      | .ok n => .ok (some n)
      | .error _ => .error (.text value, .integer, true)

def toCount (largest : Nat) (scalar : Scalar) : Converted (Option (Fin (largest + 1))) :=
  match toNatural scalar with
  | .error e => .error e
  | .ok none => .ok none
  | .ok (some n) =>
    if h : n < largest + 1 then .ok (some ⟨n, h⟩) else .error (.unsigned n, .atMost largest, false)

/-- A plain value as a value of this kind. -/
def ofScalar : (kind : Kind) → Scalar → Converted (Option kind.Value)
  | .text, scalar => toText scalar
  | .flag, scalar => toFlag scalar
  | .count largest, scalar => toCount largest scalar

/-- What a kind asks for when it finds a list or a table. -/
def Kind.expected : Kind → Expected
  | .text => .text
  | .flag => .flag
  | .count _ => .integer

/-- A part of a document as a value of a key. -/
def ofNode (key : Key) (place : String) : Node → Except Mismatch (Option key.kind.Value)
  | .scalar scalar origin =>
    match ofScalar key.kind scalar with
    | .ok value => .ok value
    | .error (found, expected, shown) => .error ⟨found, expected, place, if shown then origin else none⟩
  | .list _ origin => .error ⟨.list, key.kind.expected, place, origin⟩
  | .table _ origin => .error ⟨.table, key.kind.expected, place, origin⟩

/-- A plain value in place of a group. -/
def foundScalar : Scalar → Found
  | .null => .unit
  | .boolean value => .boolean value
  | .integer value => .integer value
  | .float value => .float value
  | .text value => .text value

/-- The value of a key in a document: in the table of its group, or in a list of values at the key's position. -/
def valueOf (document : Node) (key : Key) : Except Mismatch (Option key.kind.Value) :=
  match document.rows.get? key.group.name with
  | none => .ok none
  | some (.table rows _) =>
    match rows.get? key.name with
    | none => .ok none
    | some node => ofNode key key.path node
  | some (.list items _) =>
    match items[key.position]? with
    | none => .ok none
    | some node => ofNode key s!"{key.group.name}[{key.position}]" node
  | some (.scalar scalar _) => .error ⟨foundScalar scalar, .group key.group, key.group.name, none⟩

/-- The values that a document has for the keys, or the first that does not fit. -/
def Draft.ofDocument (document : Node) : Except Mismatch Draft :=
  match Key.all.findSome? fun key => match valueOf document key with
    | .error mismatch => some mismatch
    | .ok _ => none with
  | some mismatch => .error mismatch
  | none => .ok fun key => match valueOf document key with
    | .ok value => value
    | .error _ => none

end FeedFanout.Settings
