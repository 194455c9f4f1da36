import FeedFanout.Json.Input
import FeedFanout.Text.Hex

/-!
JSON strings. `encode` writes a text between quotes, escaping the quote, the backslash and the control characters
only; `read?` reads what follows an opening quote, with every escape, and refuses a surrogate that stands alone.
`flaw` says what is wrong with a string that `read?` refuses.
-/
namespace FeedFanout.Json

namespace Text

/-- How one character of a text is written. -/
def escape (c : Char) : List Char :=
  if c = '"' then ['\\', '"']
  else if c = '\\' then ['\\', '\\']
  else if c.toNat = 8 then ['\\', 'b']
  else if c.toNat = 9 then ['\\', 't']
  else if c.toNat = 10 then ['\\', 'n']
  else if c.toNat = 12 then ['\\', 'f']
  else if c.toNat = 13 then ['\\', 'r']
  else if c.toNat < 32 then '\\' :: 'u' :: Text.Hex.digits 4 c.toNat
  else [c]

def encode (cs : List Char) : List Char := '"' :: cs.flatMap escape ++ ['"']

def encodeString (s : String) : String := String.ofList (encode s.toList)

/-- The character that a backslash and this letter stand for. -/
def unescape? : Char → Option Char
  | '"' => some '"'
  | '\\' => some '\\'
  | '/' => some '/'
  | 'b' => some '\x08'
  | 'f' => some '\x0c'
  | 'n' => some '\n'
  | 'r' => some '\r'
  | 't' => some '\t'
  | _ => none

/-- Four digits as one UTF-16 unit. -/
def unit? (a b c d : Option Char) : Option Nat := do
  let a ← Text.Hex.value? (← a)
  let b ← Text.Hex.value? (← b)
  let c ← Text.Hex.value? (← c)
  let d ← Text.Hex.value? (← d)
  return ((a * 16 + b) * 16 + c) * 16 + d

def isHigh (unit : Nat) : Bool := 0xD800 ≤ unit && unit ≤ 0xDBFF
def isLow (unit : Nat) : Bool := 0xDC00 ≤ unit && unit ≤ 0xDFFF

/-- The character that a pair of surrogates stands for. -/
def paired (high low : Nat) : Char := Char.ofNat (0x10000 + (high - 0xD800) * 0x400 + (low - 0xDC00))

/-- Reads up to the closing quote. `high` is a first surrogate that still waits for its second, `before` what was
read so far, latest first. -/
def readFrom? (high : Option Nat) (before : List Char) : Input → Option (List Char × Input)
  | some '\\' :: some 'u' :: a :: b :: c :: d :: rest =>
    match unit? a b c d, high with
    | none, _ => none
    | some unit, none =>
      if isHigh unit then readFrom? (some unit) before rest
      else if isLow unit then none
      else readFrom? none (Char.ofNat unit :: before) rest
    | some unit, some first =>
      if isLow unit then readFrom? none (paired first unit :: before) rest else none
  | some '\\' :: some letter :: rest =>
    match unescape? letter, high with
    | some c, none => readFrom? none (c :: before) rest
    | _, _ => none
  | some c :: rest =>
    if high.isSome || c.toNat < 32 then none
    else if c = '"' then some (before.reverse, rest)
    else if c = '\\' then none
    else readFrom? none (c :: before) rest
  | _ => none

/-- The text up to the closing quote, and what follows it. -/
def read? (input : Input) : Option (List Char × Input) := readFrom? none [] input

/-- What is wrong with a string, and the bytes left where that is noticed. `high` tells that a first surrogate waits for
its second. Four bytes behind `\\u` are taken whatever they are, and stray bytes are found last. -/
def flawFrom (high : Bool) : Input → Flaw × Nat
  | some '\\' :: some 'u' :: rest =>
    if Input.size rest < 4 then (.stringEnds, 0)
    else match rest with
      | a :: b :: c :: d :: rest =>
        match unit? a b c d with
        | none => (.escape, Input.size (a :: b :: c :: d :: rest) - 4)
        | some unit =>
          if high then if isLow unit then flawFrom false rest else (.surrogate, Input.size rest)
          else if isLow unit then (.surrogate, Input.size rest)
          else flawFrom (isHigh unit) rest
      | rest => (.escape, Input.size rest - 4)
  | some '\\' :: c :: rest =>
    if high then (.hexEscapeEnds, Input.size (c :: rest) - 1)
    else if (c.bind unescape?).isSome then flawFrom false rest
    else (.escape, Input.size (c :: rest) - 1)
  | [some '\\'] => (.stringEnds, 0)
  | c :: rest =>
    if high then (.hexEscapeEnds, Input.size (c :: rest) - 1)
    else if c = some '"' then (.codePoint, Input.size rest)
    else if c.any (·.toNat < 32) then (.control, Input.size rest)
    else flawFrom false rest
  | [] => (.stringEnds, 0)

/-- What is wrong with a string that `read?` refuses. -/
def flaw (input : Input) : Flaw × Nat := flawFrom false input

end Text

end FeedFanout.Json
