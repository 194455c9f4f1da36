import FeedFanout.Decimal.Shortest

/-!
Texts of binary floating point numbers: positional (`positional`), and positional in a middle range of magnitudes
with an exponent outside it (`Layout.text`).
-/
namespace FeedFanout.Decimal

/-- The digits of a positive number, most significant first. -/
def digitsOf (n : Nat) : List Char := Nat.toDigits 10 n

/-- All digits written out, with a point where the exponent is negative. -/
def Scaled.positional (s : Scaled) : List Char :=
  let digits := digitsOf s.digits
  if 0 ≤ s.exponent then
    if s.digits = 0 then digits else digits ++ List.replicate s.exponent.toNat '0'
  else
    let places := (-s.exponent).toNat
    let padded := List.replicate (places + 1 - digits.length) '0' ++ digits
    padded.take (padded.length - places) ++ '.' :: padded.drop (padded.length - places)

/-- How a number is written: positional if the power of ten of its first digit lies in a range, with an exponent
otherwise. -/
structure Layout where
  lowest : Int
  highest : Int

/-- The power of ten of the first digit. -/
def Scaled.magnitude (s : Scaled) : Int := s.exponent + (digitsOf s.digits).length - 1

def Layout.text (layout : Layout) (s : Scaled) : List Char :=
  let power := s.magnitude
  if s.digits = 0 || (layout.lowest ≤ power && power ≤ layout.highest) then
    let digits := s.positional
    if digits.contains '.' then digits else digits ++ ['.', '0']
  else
    let mark := 'e' :: (if power < 0 then '-' else '+') :: digitsOf power.natAbs
    match digitsOf s.digits with
    | [digit] => digit :: mark
    | first :: rest => first :: '.' :: rest ++ mark
    | [] => mark

private def signed (x : Float) (text : Scaled → List Char) : String :=
  let sign := if x.toBits.toNat / 2 ^ 63 = 1 then ['-'] else []
  String.ofList (sign ++ text (shortest (.ofFloat x)))

/-- All digits of a finite number, without a point where it is whole. -/
def positional (x : Float) : String :=
  if x.isNaN then "NaN"
  else if x.isInf then (if x < 0 then "-inf" else "inf")
  else signed x Scaled.positional

/-- The text of a finite number in a layout. -/
def laidOut (layout : Layout) (x : Float) : String := signed x layout.text

end FeedFanout.Decimal
