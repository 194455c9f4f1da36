import FeedFanout.Json.Skip
import FeedFanout.Decimal.Float

/-!
JSON numbers. Whole numbers of at most 64 bits stay whole; all others become binary floating point numbers, from the
digits that fit in 64 bits and a power of ten. Numbers too large for that are refused. `Number.flaw` says what is wrong
with a number that `Number.read?` refuses.
-/
namespace FeedFanout.Json

inductive Number
  | whole (value : Int)
  | float (value : Float)

namespace Number

def largest : Nat := 2 ^ 64 - 1

/-- Digits gathered so far, and the power of ten they are to be multiplied with. -/
structure Gathered where
  digits : Nat
  exponent : Int

/-- Appends digits as long as 64 bits hold them. The number of digits left over is the second component. -/
def gather : Nat → List Nat → Nat × Nat
  | n, [] => (n, 0)
  | n, d :: ds => if n * 10 + d ≤ largest then gather (n * 10 + d) ds else (n, ds.length + 1)

/-- A finite quotient or product with a power of ten, in steps of `10 ^ 308`. -/
def scale : Nat → Float → Int → Option Float
  | 0, f, _ => some f
  | fuel + 1, f, exponent =>
    if exponent.natAbs ≤ 308 then
      let power := Float.ofScientific 1 false exponent.natAbs
      if 0 ≤ exponent then
        let f := f * power
        if f.isInf then none else some f
      else some (f / power)
    else if f == 0 then some f
    else if 0 ≤ exponent then none
    else scale fuel (f / Float.ofScientific 1 false 308) (exponent + 308)

def signed (negative : Bool) (f : Float) : Float := if negative then -f else f

def ofGathered (negative : Bool) (g : Gathered) : Option Number :=
  (scale 8 (UInt64.ofNat g.digits).toFloat g.exponent).map (.float <| signed negative ·)

/-- A number without point and exponent. -/
def ofWhole (negative : Bool) (digits : List Nat) : Option Number :=
  match gather 0 digits with
  | (n, 0) =>
    if !negative then some (.whole n)
    else if n = 0 || 2 ^ 63 < n then some (.float (-(UInt64.ofNat n).toFloat))
    else some (.whole (-n))
  | (n, left) => ofGathered negative ⟨n, left⟩

/-- Digits of a number with a point: those behind it count only as far as 64 bits hold them. -/
def withFraction (whole fraction : List Nat) : Gathered :=
  let (n, left) := gather 0 whole
  let (m, unused) := gather n fraction
  ⟨m, (left : Int) - ((fraction.length - unused : Nat) : Int)⟩

def clamp (x : Int) : Int := max (-2 ^ 31) (min x (2 ^ 31 - 1))

/-- Applies a written exponent. One beyond 32 bits leaves only zero. -/
def withExponent (negative : Bool) (g : Gathered) (down : Bool) (exponent : List Nat) : Option Number :=
  let e : Nat := exponent.foldl (fun e d => e * 10 + d) 0
  if e ≤ 2 ^ 31 - 1 then
    ofGathered negative { g with exponent := clamp (if down then g.exponent - (e : Int) else g.exponent + (e : Int)) }
  else if g.digits ≠ 0 ∧ !down then none
  else some (.float (signed negative 0))

def digitValues (input : Input) : List Nat :=
  (input.takeWhile isDigit).filterMap fun c => c.map fun c => c.toNat - 48

/-- Behind the mark of the exponent. -/
def readExponent? (negative : Bool) (g : Gathered) (input : Input) : Option (Number × Input) :=
  let (down, input) := match input with
    | some '-' :: rest => (true, rest)
    | some '+' :: rest => (false, rest)
    | _ => (false, input)
  match digitValues input with
  | [] => none
  | digits => (withExponent negative g down digits).map (·, input.dropWhile isDigit)

/-- A number, the sign already read. -/
def readUnsigned? (negative : Bool) (input : Input) : Option (Number × Input) :=
  let whole := digitValues input
  let rest := input.dropWhile isDigit
  match whole with
  | [] => none
  | 0 :: _ :: _ => none
  | _ =>
    match rest with
    | some '.' :: rest =>
      match digitValues rest with
      | [] => none
      | fraction =>
        let g := withFraction whole fraction
        match rest.dropWhile isDigit with
        | some 'e' :: rest => readExponent? negative g rest
        | some 'E' :: rest => readExponent? negative g rest
        | rest => (ofGathered negative g).map (·, rest)
    | some 'e' :: rest =>
      let (n, left) := gather 0 whole
      readExponent? negative ⟨n, left⟩ rest
    | some 'E' :: rest =>
      let (n, left) := gather 0 whole
      readExponent? negative ⟨n, left⟩ rest
    | rest => (ofWhole negative whole).map (·, rest)

/-- The number at the front of the input. -/
def read? : Input → Option (Number × Input)
  | some '-' :: rest => readUnsigned? true rest
  | input => readUnsigned? false input

/-! ### What is wrong with a number -/

/-- Another character than a digit stands at the front, or the document is over. -/
def lacksDigit (input : Input) : Flaw × Nat :=
  if input.isEmpty then (.valueEnds, 0) else (.number, Input.size input - 1)

/-- Digits of an exponent up to the one with which it is beyond 32 bits. -/
def exponentLength (e : Nat) : List Nat → Nat
  | [] => 0
  | d :: digits => if 2 ^ 31 - 1 < e * 10 + d then 1 else exponentLength (e * 10 + d) digits + 1

def exponentFlaw (input : Input) : Flaw × Nat :=
  let input := match input with
    | some '-' :: rest => rest
    | some '+' :: rest => rest
    | _ => input
  match digitValues input with
  | [] => lacksDigit input
  | digits => (.range, Input.size (input.drop (exponentLength 0 digits)))

def unsignedFlaw (input : Input) : Flaw × Nat :=
  let behind (rest : Input) : Flaw × Nat :=
    match rest with
    | some 'e' :: rest => exponentFlaw rest
    | some 'E' :: rest => exponentFlaw rest
    | rest => (.range, Input.size rest)
  match digitValues input, input with
  | [], input => lacksDigit input
  | 0 :: _ :: _, _ :: rest => (.number, Input.size rest - 1)
  | _, input =>
    match input.dropWhile isDigit with
    | some '.' :: rest => if (digitValues rest).isEmpty then lacksDigit rest else behind (rest.dropWhile isDigit)
    | rest => behind rest

/-- What is wrong with a number that `read?` refuses, and the bytes left where that is noticed. -/
def flaw : Input → Flaw × Nat
  | some '-' :: rest => unsignedFlaw rest
  | input => unsignedFlaw input

/-- Positional from one hundred-thousandth up to sixteen digits before the point. -/
def layout : Decimal.Layout := ⟨-5, 15⟩

end Number

end FeedFanout.Json
