import FeedFanout.Decimal.Integer
import FeedFanout.Text.Hex

/-!
TOML numbers. Underscores may stand between digits. Whole numbers have at most 64 bits with their sign, and may be
written to the bases two, eight and sixteen; numbers with a point or an exponent are binary floating point numbers,
and none of them overflows.
-/
namespace FeedFanout.Document.Toml

/-- The digits of a text in which single underscores stand only between digits. -/
def digits? (value? : Char → Option Nat) : List Char → Option (List Nat)
  | [] => none
  | [c] => (value? c).map fun d => [d]
  | c :: '_' :: cs => do return (← value? c) :: (← digits? value? cs)
  | c :: cs => do return (← value? c) :: (← digits? value? cs)

def valueOf (base : Nat) (digits : List Nat) : Nat := digits.foldl (fun n d => n * base + d) 0

/-- The digits of a number to a base of at most sixteen. -/
def digitBelow? (base : Nat) (c : Char) : Option Nat := (Text.Hex.value? c).filter (· < base)

def leadingZero : List Char → Bool
  | '0' :: _ :: _ => true
  | _ => false

/-- Sign, and what follows it. -/
def splitSign : List Char → Bool × List Char
  | '-' :: cs => (true, cs)
  | '+' :: cs => (false, cs)
  | cs => (false, cs)

def natural? (base : Nat) (cs : List Char) : Option Int :=
  match digits? (digitBelow? base) cs with
  | some digits => if valueOf base digits ≤ Decimal.largestInt64 then some (valueOf base digits) else none
  | none => none

/-- A whole number. -/
def integer? (cs : List Char) : Option Int :=
  match cs with
  | '0' :: 'x' :: cs => natural? 16 cs
  | '0' :: 'o' :: cs => natural? 8 cs
  | '0' :: 'b' :: cs => natural? 2 cs
  | cs =>
    let (negative, cs) := splitSign cs
    if leadingZero cs then none
    else match digits? Decimal.digitValue? cs with
      | none => none
      | some digits =>
        let n := valueOf 10 digits
        if negative then (if n ≤ Decimal.largestInt64 + 1 then some (-(n : Int)) else none)
        else if n ≤ Decimal.largestInt64 then some n
        else none

/-- The number `digits * 10 ^ exponent`; none if it is too large. -/
def decimal? (digits : List Nat) (exponent : Int) : Option Float :=
  let n := valueOf 10 digits
  let magnitude : Int := exponent + (Nat.toDigits 10 n).length
  if n = 0 ∨ magnitude < -400 then some 0
  else if 400 < magnitude then none
  else
    let x := Float.ofScientific n (exponent < 0) exponent.natAbs
    if x.isInf then none else some x

/-- What follows the mark of an exponent. -/
def exponent? (cs : List Char) : Option Int :=
  let (negative, cs) := splitSign cs
  (digits? Decimal.digitValue? cs).map fun digits =>
    let e : Nat := valueOf 10 digits
    if negative then -(e : Int) else e

/-- A number with a point or an exponent, or both. -/
def unsignedFloat? (cs : List Char) : Option Float := do
  let isMark (c : Char) : Bool := c = 'e' || c = 'E'
  let whole := cs.takeWhile fun c => c ≠ '.' && !isMark c
  let rest := cs.drop whole.length
  if leadingZero whole then none
  else
    let digits ← digits? Decimal.digitValue? whole
    match rest with
    | '.' :: rest =>
      let fraction ← digits? Decimal.digitValue? (rest.takeWhile fun c => !isMark c)
      match rest.dropWhile fun c => !isMark c with
      | [] => decimal? (digits ++ fraction) (-(fraction.length : Int))
      | _ :: rest => decimal? (digits ++ fraction) ((← exponent? rest) - (fraction.length : Int))
    | _ :: rest => decimal? digits (← exponent? rest)
    | [] => none

def float? (cs : List Char) : Option Float :=
  let (negative, cs) := splitSign cs
  let magnitude : Option Float :=
    if cs = ['i', 'n', 'f'] then some (1 / 0)
    else if cs = ['n', 'a', 'n'] then some (0 / 0)
    else unsignedFloat? cs
  magnitude.map fun x => if negative then -x else x

end FeedFanout.Document.Toml
