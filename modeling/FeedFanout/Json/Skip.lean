import FeedFanout.Json.Text

/-!
Values that are passed over. `Skip.value?` drops one JSON value, checking its grammar and nothing else: numbers may
be of any size, a surrogate may stand alone, stray bytes may occur in strings, and nesting has no limit. `Skip.flaw` says
what is wrong with a value that `Skip.value?` refuses.
-/
namespace FeedFanout.Json

/-- Blank space between tokens. -/
def isSpace (c : Option Char) : Bool := c = some ' ' || c = some '\n' || c = some '\t' || c = some '\r'

def skipSpace (input : Input) : Input := input.dropWhile isSpace

def isDigit (c : Option Char) : Bool := c.any fun c => 48 ≤ c.toNat && c.toNat ≤ 57

namespace Skip

inductive Bracket
  | array
  | object
deriving DecidableEq, Repr

/-- Where in a value the reader stands. -/
inductive Mode
  | value
  /-- Just behind an opening bracket. -/
  | opened
  /-- Behind a whole value. -/
  | done
  | name
  | colon
  /-- Inside a string, which is the name of a member or a value. -/
  | text (isName : Bool)
  | escape (isName : Bool)
  | unicode (isName : Bool) (left : Nat)
  /-- Letters still to come of `null`, `true` or `false`. -/
  | word (left : List Char)
  | minus
  | zero
  | whole
  | point
  | fraction
  | exponent
  | exponentSign
  | exponentDigits
deriving DecidableEq, Repr

/-- A value may be over in this mode if `next` comes next. -/
def Mode.endsBefore (mode : Mode) (next : Option (Option Char)) : Bool :=
  let digit := next.any isDigit
  let is (c : Char) := next == some (some c)
  let mark := is 'e' || is 'E'
  match mode with
  | .done => true
  | .zero => !(digit || is '.' || mark)
  | .whole => !(digit || is '.' || mark)
  | .fraction => !(digit || mark)
  | .exponentDigits => !digit
  | _ => false

/-- How a value starts. -/
def start (stack : List Bracket) (c : Option Char) : Option (Mode × List Bracket) :=
  match c with
  | some 'n' => some (.word ['u', 'l', 'l'], stack)
  | some 't' => some (.word ['r', 'u', 'e'], stack)
  | some 'f' => some (.word ['a', 'l', 's', 'e'], stack)
  | some '-' => some (.minus, stack)
  | some '0' => some (.zero, stack)
  | some '"' => some (.text false, stack)
  | some '[' => some (.opened, .array :: stack)
  | some '{' => some (.opened, .object :: stack)
  | c => if isDigit c then some (.whole, stack) else none

/-- What may follow a whole value inside a bracket. -/
def follow (stack : List Bracket) (c : Option Char) : Option (Mode × List Bracket) :=
  match stack, c with
  | .array :: _, some ',' => some (.value, stack)
  | .object :: _, some ',' => some (.name, stack)
  | .array :: outer, some ']' => some (.done, outer)
  | .object :: outer, some '}' => some (.done, outer)
  | _, c => if isSpace c then some (.done, stack) else none

/-- One character further; `none` where the grammar has no such text. -/
def step (mode : Mode) (stack : List Bracket) (c : Option Char) : Option (Mode × List Bracket) :=
  if mode.endsBefore (some c) then follow stack c
  else match mode with
  | .value => if isSpace c then some (.value, stack) else start stack c
  | .opened =>
    if isSpace c then some (.opened, stack)
    else match stack, c with
      | .array :: outer, some ']' => some (.done, outer)
      | .object :: outer, some '}' => some (.done, outer)
      | .object :: _, some '"' => some (.text true, stack)
      | .array :: _, c => start stack c
      | _, _ => none
  | .name => if isSpace c then some (.name, stack) else if c = some '"' then some (.text true, stack) else none
  | .colon => if isSpace c then some (.colon, stack) else if c = some ':' then some (.value, stack) else none
  | .text isName =>
    match c with
    | some '"' => some (if isName then .colon else .done, stack)
    | some '\\' => some (.escape isName, stack)
    | some c => if c.toNat < 32 then none else some (.text isName, stack)
    | none => some (.text isName, stack)
  | .escape isName =>
    match c with
    | some 'u' => some (.unicode isName 4, stack)
    | some c => if (Text.unescape? c).isSome then some (.text isName, stack) else none
    | none => none
  | .unicode isName left =>
    if (c.bind Text.Hex.value?).isSome then
      some (if left ≤ 1 then .text isName else .unicode isName (left - 1), stack)
    else none
  | .word (letter :: left) => if c = some letter then some (if left.isEmpty then .done else .word left, stack) else none
  | .word [] => none
  | .minus => if c = some '0' then some (.zero, stack) else if isDigit c then some (.whole, stack) else none
  | .zero =>
    if c = some '.' then some (.point, stack)
    else if c = some 'e' || c = some 'E' then some (.exponent, stack) else none
  | .whole =>
    if isDigit c then some (.whole, stack)
    else if c = some '.' then some (.point, stack) else some (.exponent, stack)
  | .point => if isDigit c then some (.fraction, stack) else none
  | .fraction => if isDigit c then some (.fraction, stack) else some (.exponent, stack)
  | .exponent =>
    if isDigit c then some (.exponentDigits, stack)
    else if c = some '+' || c = some '-' then some (.exponentSign, stack) else none
  | .exponentSign => if isDigit c then some (.exponentDigits, stack) else none
  | .exponentDigits => if isDigit c then some (.exponentDigits, stack) else none
  | .done => none

/-- What follows the value that ends once no bracket of `stack` is open. -/
def run? (mode : Mode) (stack : List Bracket) : Input → Option Input
  | [] => if stack.isEmpty && mode.endsBefore none then some [] else none
  | c :: rest =>
    if stack.isEmpty && mode.endsBefore (some c) then some (c :: rest)
    else match step mode stack c with
      | some (mode, stack) => run? mode stack rest
      | none => none

/-- Drops one value and the blank space before it. -/
def value? (input : Input) : Option Input := run? .value [] input

/-! ### What is wrong with a value -/

/-- The document is over inside a bracket. -/
def Bracket.ends : Bracket → Flaw
  | .array => .listEnds
  | .object => .objectEnds

/-- Something else than a comma follows a value inside a bracket. -/
def Bracket.comma : Bracket → Flaw
  | .array => .listComma
  | .object => .objectComma

/-- What is wrong at the end of a document. -/
def flawAtEnd (mode : Mode) (stack : List Bracket) : Flaw :=
  let ends := (stack.head?.map Bracket.ends).getD .valueEnds
  if mode.endsBefore none then ends
  else match mode with
  | .opened => ends
  | .name | .colon => .objectEnds
  | .text _ | .escape _ | .unicode .. => .stringEnds
  | .minus | .point | .exponent | .exponentSign => .number
  | _ => .valueEnds

/-- What is wrong with the front of the input, and the bytes left where that is noticed. -/
def flawAt (mode : Mode) (stack : List Bracket) (input : Input) : Flaw × Nat :=
  let left := Input.size input
  if mode.endsBefore input.head? then ((stack.head?.map Bracket.comma).getD .trailing, left - 1)
  else match mode with
  | .opened => (if stack.head? = some .object then .key else .value, left - 1)
  | .name => (.key, left - 1)
  | .colon => (.colon, left - 1)
  | .text _ => (.control, left)
  | .escape _ => (.escape, left - 1)
  | .unicode _ digits => if left < digits then (.stringEnds, 0) else (.escape, left - digits)
  | .word _ => (.word, left - 1)
  | .minus | .zero | .point | .exponent | .exponentSign => (.number, left - 1)
  | _ => (.value, left - 1)

def flawFrom (mode : Mode) (stack : List Bracket) : Input → Flaw × Nat
  | [] => (flawAtEnd mode stack, 0)
  | c :: rest =>
    match step mode stack c with
    | some (mode, stack) => flawFrom mode stack rest
    | none => flawAt mode stack (c :: rest)

/-- What is wrong with a value that `value?` refuses. -/
def flaw (input : Input) : Flaw × Nat := flawFrom .value [] input

end Skip

end FeedFanout.Json
