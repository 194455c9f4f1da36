/-!
Classes of characters as tables of closed ranges of code points, ascending and apart.
-/
namespace FeedFanout.Text

/-- The character lies in one of the ranges. -/
def isWithin (ranges : Array (Nat × Nat)) (c : Char) : Bool :=
  let n := c.toNat
  ranges.any fun (first, last) => first ≤ n && n ≤ last

end FeedFanout.Text
