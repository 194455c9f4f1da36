import FeedFanout.Text.Hex
import FeedFanout.Text.Split
import FeedFanout.Power

/-!
Names of hosts that are numbers. Up to four numbers with points between them make an address of 32 bits: the last one
fills all that the others leave. A number is decimal, octal behind a zero, or hexadecimal behind `0x`.
-/
namespace FeedFanout.Domain.Ipv4

/-- The digits as a number to this base. -/
def inBase? (base : Nat) (digits : List Char) : Option Nat :=
  digits.foldlM (fun n c => ((Text.Hex.value? c).filter (· < base)).map (n * base + ·)) 0

/-- One number. Behind its mark the digits may be left out. -/
def number? (cs : List Char) : Option Nat :=
  match cs with
  | [] => none
  | '0' :: 'x' :: digits => inBase? 16 digits
  | '0' :: 'X' :: digits => inBase? 16 digits
  | '0' :: d :: digits => inBase? 8 (d :: digits)
  | digits => inBase? 10 digits

/-- The parts of a name, without the empty one behind a last point. -/
def parts (name : List Char) : List (List Char) :=
  let parts := Text.split (· = '.') name
  if 1 < parts.length && parts.getLast? = some [] then parts.dropLast else parts

/-- The last part is a number, or at least made of digits. -/
def endsInNumber (name : List Char) : Bool :=
  match (parts name).getLast? with
  | none => false
  | some last => (!last.isEmpty && last.all Char.isDigit) || (number? last).isSome

/-- The name is an address. -/
def isAddress (name : List Char) : Bool :=
  match (parts name).mapM number? with
  | none => false
  | some numbers =>
    match numbers.reverse with
    | [] => false
    | last :: others => others.length ≤ 3 && others.all (· ≤ 255) && last < 256 ^ (4 - others.length)

end FeedFanout.Domain.Ipv4
