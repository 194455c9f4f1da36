import FeedFanout.Power

/-!
The fewest decimal digits that read back as a given binary number. `shortest` looks at the two neighbours of the
value on ever finer decimal grids and takes the first grid on which one of them still rounds to the value.
-/
namespace FeedFanout.Decimal

/-- The number `digits * 10 ^ exponent`. -/
structure Scaled where
  digits : Nat
  exponent : Int
deriving DecidableEq, Repr

/-- The number `significand * 2 ^ exponent`, exactly. -/
structure Binary where
  significand : Nat
  exponent : Int
deriving DecidableEq, Repr

/-- The magnitude of a finite number. -/
def Binary.ofFloat (x : Float) : Binary :=
  let bits := x.toBits.toNat % 2 ^ 63
  let fraction := bits % 2 ^ 52
  let field : Nat := bits / 2 ^ 52
  if field = 0 then ⟨fraction, -1074⟩ else ⟨fraction + 2 ^ 52, (field : Int) - 1075⟩

/-- `numerator / denominator` compared with a grid point, all over one denominator. -/
structure Cell where
  /-- The value. -/
  value : Nat
  /-- Half the way to the next number below, and above. -/
  below : Nat
  above : Nat
  /-- What stands for one step of the grid. -/
  unit : Nat
  /-- A point half way is still read as the value. -/
  closed : Bool

/-- The value of `b` over a common denominator with the grid `10 ^ step`. -/
def Cell.make (b : Binary) (step : Int) : Cell :=
  let narrow := b.significand = 2 ^ 52 && -1074 < b.exponent
  let up (e : Int) := e.toNat
  let two := 2 ^ up b.exponent * 10 ^ up (-step)
  let unit := 10 ^ up step * 2 ^ up (-b.exponent)
  ⟨4 * b.significand * two, if narrow then two else 2 * two, 2 * two, 4 * unit, b.significand % 2 = 0⟩

/-- The nearest grid point that still reads back, if there is one. -/
def Cell.point? (c : Cell) : Option Nat :=
  let low := c.value / c.unit
  let short := c.value - low * c.unit
  let long := (low + 1) * c.unit - c.value
  let lowFits := 0 < low && (short < c.below || (c.closed && short = c.below))
  let highFits := long < c.above || (c.closed && long = c.above)
  if lowFits && highFits then
    if short < long then some low else if long < short then some (low + 1)
    else some (if low % 2 = 0 then low else low + 1)
  else if lowFits then some low
  else if highFits then some (low + 1)
  else none

/-- The grids from `10 ^ step` downwards, `fuel` of them. -/
def search (b : Binary) : Nat → Int → Scaled
  | 0, step => ⟨b.significand, step⟩
  | fuel + 1, step =>
    match (Cell.make b step).point? with
    | some digits => ⟨digits, step⟩
    | none => search b fuel (step - 1)

/-- No decimal with fewer digits reads back. Zero has the digit zero. -/
def shortest (b : Binary) : Scaled :=
  if b.significand = 0 then ⟨0, 0⟩
  else
    let coarse := (b.exponent + (b.significand.log2 : Int) + 1) * 30103 / 100000 + 2
    search b 25 coarse

end FeedFanout.Decimal
