import FeedFanout.Address
import FeedFanout.Text.Hex
import FeedFanout.Power

/-!
Addresses to listen at: an internet address and a port. In texts the host is four octets, or eight groups in brackets
with perhaps the number of a scope; the longest run of at least two zero groups is left out.
-/
namespace FeedFanout

inductive Ip
  | v4 (octets : List Nat)
  | v6 (groups : List Nat) (scope : Nat)
deriving DecidableEq, Repr

structure SocketAddress where
  ip : Ip
  port : Nat
deriving DecidableEq, Repr

namespace Ip

/-- The number of a scope behind a percent sign; zero without one. -/
def scope? : List Char → Option (Nat × List Char)
  | '%' :: cs =>
    let digits := cs.takeWhile fun c => (Decimal.digitValue? c).isSome
    match Decimal.parseNat (2 ^ 32 - 1) digits with
    | .ok scope => some (scope, cs.drop digits.length)
    | .error _ => none
  | cs => some (0, cs)

/-- A host as it stands before the colon and the port. -/
def parse? (host : String) : Option Ip :=
  match host.toList with
  | '[' :: cs =>
    match Address.readIpv6 cs with
    | none => none
    | some (groups, cs) =>
      match scope? cs with
      | some (scope, [']']) => some (.v6 groups scope)
      | _ => none
  | cs =>
    match Address.readOctets 4 cs with
    | some (octets, []) => some (.v4 octets)
    | _ => none

/-! ### Writing -/

/-- The run of zeros at the front. -/
def zeros (groups : List Nat) : Nat := (groups.takeWhile (· = 0)).length

/-- Start and length of the first longest run of zeros from `start` on. -/
def longestRun (start : Nat) : List Nat → Nat × Nat
  | [] => (start, 0)
  | group :: groups =>
    let here := zeros (group :: groups)
    let (later, length) := longestRun (start + 1) groups
    if length ≤ here then (start, here) else (later, length)

def joined (mark : String) (parts : List String) : String := mark.intercalate parts

def hexGroups (groups : List Nat) : String :=
  joined ":" (groups.map fun group => String.ofList (Nat.toDigits 16 group))

def octetsText (octets : List Nat) : String := joined "." (octets.map toString)

def groupsText (groups : List Nat) : String :=
  match groups with
  | [0, 0, 0, 0, 0, 0xFFFF, a, b] => s!"::ffff:{octetsText [a / 256, a % 256, b / 256, b % 256]}"
  | groups =>
    let (start, length) := longestRun 0 groups
    if 1 < length then s!"{hexGroups (groups.take start)}::{hexGroups (groups.drop (start + length))}"
    else hexGroups groups

def text : Ip → String
  | .v4 octets => octetsText octets
  | .v6 groups scope => if scope = 0 then s!"[{groupsText groups}]" else s!"[{groupsText groups}%{scope}]"

end Ip

def SocketAddress.text (a : SocketAddress) : String := s!"{a.ip.text}:{a.port}"

end FeedFanout
