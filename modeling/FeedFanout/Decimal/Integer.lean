import FeedFanout.Power

/-!
Decimal integers of limited size. The first fault in reading order is reported: a character that is no digit, or the
digit at which the number leaves its range.
-/
namespace FeedFanout.Decimal

inductive IntegerError
  | empty
  | invalidDigit
  | tooLarge
  | tooSmall
deriving DecidableEq, Repr

def IntegerError.message : IntegerError → String
  | .empty => "cannot parse integer from empty string"
  | .invalidDigit => "invalid digit found in string"
  | .tooLarge => "number too large to fit in target type"
  | .tooSmall => "number too small to fit in target type"

def digitValue? (c : Char) : Option Nat := if '0' ≤ c ∧ c ≤ '9' then some (c.toNat - 48) else none

/-- Digits put behind `n`, as long as the number stays within `largest`. -/
def readDigits (largest : Nat) (overflow : IntegerError) : Nat → List Char → Except IntegerError Nat
  | n, [] => .ok n
  | n, c :: cs =>
    match digitValue? c with
    | none => .error .invalidDigit
    | some d => if n * 10 + d ≤ largest then readDigits largest overflow (n * 10 + d) cs else .error overflow

/-- A natural number up to `largest`, perhaps behind a plus sign. -/
def parseNat (largest : Nat) (cs : List Char) : Except IntegerError Nat :=
  match cs with
  | [] => .error .empty
  | ['+'] => .error .invalidDigit
  | '+' :: cs => readDigits largest .tooLarge 0 cs
  | cs => readDigits largest .tooLarge 0 cs

/-- An integer from `-largest - 1` to `largest`, perhaps behind a sign. -/
def parseInt (largest : Nat) (cs : List Char) : Except IntegerError Int :=
  match cs with
  | ['-'] => .error .invalidDigit
  | '-' :: cs => (readDigits (largest + 1) .tooSmall 0 cs).map fun n => -(n : Int)
  | cs => (parseNat largest cs).map fun n => (n : Int)

/-- The largest signed number of 64 bits. -/
def largestInt64 : Nat := 2 ^ 63 - 1

/-- The largest unsigned number of 64 bits. -/
def largestNat64 : Nat := 2 ^ 64 - 1

end FeedFanout.Decimal
