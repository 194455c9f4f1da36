import FeedFanout.Text.Blank
import FeedFanout.Text.Hex
import FeedFanout.Power

/-!
Identifiers of users and posts: 128-bit numbers, written as 32 lowercase hexadecimal digits in groups of
8, 4, 4, 4 and 12. Four spellings are read: the digits alone, in groups, in groups between braces, and in
groups behind `urn:uuid:`. `Id.spelled?` is the grammar, and `Id.diagnose` says what is wrong with a text
outside it.
-/
namespace FeedFanout

/-- What an identifier names. -/
inductive Role
  | user
  | post
deriving DecidableEq, Repr

structure Id (role : Role) where
  number : Fin (2 ^ 128)
deriving DecidableEq, Repr

abbrev UserId := Id .user
abbrev PostId := Id .post

namespace Id
variable {role : Role}

instance : LT (Id role) := ⟨fun a b => a.number < b.number⟩
instance : DecidableRel (α := Id role) (· < ·) := fun a b => inferInstanceAs (Decidable (a.number < b.number))
instance : Inhabited (Id role) := ⟨⟨0⟩⟩
instance : LawfulBEq (Id role) := inferInstance

def ofNat (n : Nat) : Id role := ⟨Fin.ofNat (2 ^ 128) n⟩

/-- The identifier with no bit set. -/
def isNil (id : Id role) : Bool := id.number.val == 0

/-- Five groups of lowercase digits. -/
def chars (id : Id role) : List Char :=
  let n := id.number.val
  Text.Hex.digits 8 (n / 16 ^ 24) ++ '-' :: Text.Hex.digits 4 (n / 16 ^ 20) ++
    '-' :: Text.Hex.digits 4 (n / 16 ^ 16) ++ '-' :: Text.Hex.digits 4 (n / 16 ^ 12) ++ '-' :: Text.Hex.digits 12 n

def text (id : Id role) : String := String.ofList id.chars

/-! ### Spellings -/

/-- Groups of digits of the given sizes with a hyphen between them, read as one number. -/
def readGroups? : List Nat → Nat → List Char → Option (Nat × List Char)
  | [], acc, cs => some (acc, cs)
  | [size], acc, cs => Text.Hex.read? size acc cs
  | size :: sizes, acc, cs =>
    match Text.Hex.read? size acc cs with
    | some (acc, '-' :: cs) => readGroups? sizes acc cs
    | _ => none

/-- The 32 digits without any hyphen. -/
def plain? (cs : List Char) : Option Nat :=
  match Text.Hex.read? 32 0 cs with
  | some (n, []) => some n
  | _ => none

/-- The five groups. -/
def grouped? (cs : List Char) : Option Nat :=
  match readGroups? [8, 4, 4, 4, 12] 0 cs with
  | some (n, []) => some n
  | _ => none

/-- What stands between an opening and a closing brace. -/
def braced? : List Char → Option (List Char)
  | '{' :: cs => if cs.getLast? = some '}' then some cs.dropLast else none
  | _ => none

def urn : List Char := "urn:uuid:".toList

/-- What follows `urn:uuid:` in any case of its letters. -/
def afterUrn? (cs : List Char) : Option (List Char) :=
  if (cs.take urn.length).map Char.toLower = urn then some (cs.drop urn.length) else none

/-- The number that a text spells in one of the four forms. -/
def spelled? (cs : List Char) : Option Nat :=
  plain? cs <|> grouped? cs <|> (braced? cs).bind grouped? <|> (afterUrn? cs).bind grouped?

/-! ### What is wrong with a text -/

inductive Error
  /-- The text has a length that no form has. -/
  | length (found : Nat)
  | character (found : Char) (index : Nat)
  | groupCount (found : Nat)
  | groupLength (group expected found : Nat)
deriving DecidableEq, Repr

def Error.message : Error → String
  | .length found => s!"invalid length: found {found}"
  | .character found index => s!"invalid character: found `{found}` at {index}"
  | .groupCount found => s!"invalid group count: expected 5, found {found}"
  | .groupLength group expected found =>
    s!"invalid group length in group {group}: expected {expected}, found {found}"

/-- Length in bytes of the UTF-8 form. -/
def byteLength (cs : List Char) : Nat := (String.ofList cs).utf8ByteSize

/-- The first character that is neither a digit nor a hyphen, with its byte position. -/
def stray? : Nat → List Char → Option (Char × Nat)
  | _, [] => none
  | i, c :: cs => if c = '-' ∨ (Text.Hex.value? c).isSome then stray? (i + c.utf8Size) cs else some (c, i)

def hyphens : Nat → List Char → List Nat
  | _, [] => []
  | i, c :: cs => if c = '-' then i :: hyphens (i + 1) cs else hyphens (i + 1) cs

/-- The first of the four closing hyphens that is out of place, as (group, expected size, size found). -/
def misplaced? (places : List Nat) : Option (Nat × Nat × Nat) :=
  let nominal := [(0, 0, 8), (1, 9, 4), (2, 14, 4), (3, 19, 4)]
  (places.zip nominal).findSome? fun (place, group, start, size) =>
    if place = start + size then none else some (group, size, place - start)

/-- Looks at `cs`, which stands `offset` bytes into a text of `whole` bytes. `bare` texts may be digits alone. -/
def examine (cs : List Char) (offset whole : Nat) (bare : Bool) : Error :=
  match stray? offset cs with
  | some (c, i) => .character c i
  | none =>
    let places := hyphens 0 cs
    if bare && places.isEmpty then .length whole
    else if places.length ≠ 4 then .groupCount (places.length + 1)
    else match misplaced? places with
      | some (group, expected, found) => .groupLength group expected found
      | none => .groupLength 4 12 (whole - 24)

/-- Texts of no particular form. -/
def examineAny (cs : List Char) : Error :=
  let whole := byteLength cs
  if whole = 0 ∨ 45 < whole then .length whole
  else match braced? cs with
    | some inner => examine inner 1 whole false
    | none => if cs.take urn.length = urn then examine (cs.drop urn.length) urn.length whole false
      else examine cs 0 whole true

/-- What is wrong with a text that `spelled?` refuses. A text as long as one of the grouped forms is judged by its
groups alone. -/
def diagnose (cs : List Char) : Error :=
  let grouped (cs : List Char) := examine cs 0 (byteLength cs) false
  match byteLength cs, braced? cs, afterUrn? cs with
  | 36, _, _ => grouped cs
  | 38, some inner, _ => grouped inner
  | 45, _, some rest => grouped rest
  | _, _, _ => examineAny cs

def parse (cs : List Char) : Except Error (Id role) :=
  match spelled? cs with
  | some n => .ok (ofNat n)
  | none => .error (diagnose cs)

end Id

/-! ### Identities of users -/

/-- A value that breaks a rule of its domain. -/
inductive DomainError
  | validation (message : String)
deriving DecidableEq, Repr

def DomainError.message : DomainError → String
  | .validation message => s!"domain validation failed: {message}"

/-- Reads an identity with blanks around it. -/
def UserId.parse (text : String) : Except DomainError UserId :=
  match Id.parse (Text.trimList text.toList) with
  | .ok user => .ok user
  | .error cause => .error (.validation s!"invalid user id `{text}`: {cause.message}")

end FeedFanout
