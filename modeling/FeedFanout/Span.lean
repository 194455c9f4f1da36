import FeedFanout.Power

/-!
Lengths of time in nanoseconds. A length is written in the largest unit that it fills at least once, with the rest as
decimal places without trailing zeros.
-/
namespace FeedFanout

structure Span where
  nanos : Nat
deriving DecidableEq, Repr

namespace Span

def ofMillis (ms : Nat) : Span := ⟨ms * 1000000⟩
def ofSeconds (seconds : Nat) : Span := ⟨seconds * 1000000000⟩

def seconds (span : Span) : Nat := span.nanos / 1000000000
def millis (span : Span) : Nat := span.nanos / 1000000

/-- The `places` digits of a fraction, without trailing zeros. -/
def fraction (places rest : Nat) : List Char :=
  let digits := Nat.toDigits 10 rest
  let padded := List.replicate (places - digits.length) '0' ++ digits
  (padded.reverse.dropWhile (· = '0')).reverse

/-- A number of units with `places` decimal places. -/
def amount (nanos places : Nat) (unit : String) : String :=
  let whole := nanos / 10 ^ places
  let rest := nanos % 10 ^ places
  if rest = 0 then s!"{whole}{unit}" else s!"{whole}.{String.ofList (fraction places rest)}{unit}"

def text (span : Span) : String :=
  let n := span.nanos
  if 10 ^ 9 ≤ n then amount n 9 "s"
  else if 10 ^ 6 ≤ n then amount n 6 "ms"
  else if 10 ^ 3 ≤ n then amount n 3 "µs"
  else amount n 0 "ns"

end Span

end FeedFanout
