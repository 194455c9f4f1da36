import FeedFanout.Decimal.Integer
import FeedFanout.Text.Hex

/-!
Internet addresses. Four octets with dots; or eight groups of hexadecimal digits with colons, of which one run of zero
groups may be left out and the last two may be written as octets.
-/
namespace FeedFanout

namespace Address

/-- A decimal number of at most three digits up to 255, without leading zeros. -/
def readOctet (cs : List Char) : Option (Nat × List Char) :=
  let digits := cs.takeWhile fun c => (Decimal.digitValue? c).isSome
  let value := digits.foldl (fun n c => n * 10 + (Decimal.digitValue? c).getD 0) 0
  if digits.isEmpty ∨ 3 < digits.length ∨ 255 < value ∨ (digits.head? = some '0' ∧ 1 < digits.length) then none
  else some (value, cs.drop digits.length)

/-- The given number of octets with dots between them. -/
def readOctets : Nat → List Char → Option (List Nat × List Char)
  | 0, cs => some ([], cs)
  | 1, cs => (readOctet cs).map fun (octet, cs) => ([octet], cs)
  | n + 2, cs =>
    match readOctet cs with
    | some (octet, '.' :: cs) => (readOctets (n + 1) cs).map fun (octets, cs) => (octet :: octets, cs)
    | _ => none

/-- Up to four hexadecimal digits. -/
def readGroup (cs : List Char) : Option (Nat × List Char) :=
  let digits := cs.takeWhile fun c => (Text.Hex.value? c).isSome
  if digits.isEmpty ∨ 4 < digits.length then none
  else some (digits.foldl (fun n c => n * 16 + (Text.Hex.value? c).getD 0) 0, cs.drop digits.length)

/-- Two groups written as four octets. -/
def readPair (cs : List Char) : Option (List Nat × List Char) :=
  match readOctets 4 cs with
  | some ([a, b, c, d], cs) => some ([a * 256 + b, c * 256 + d], cs)
  | _ => none

/-- As many groups as there are, at most `limit`; all but the first behind a colon. The last two may be octets, and
then `true` is answered. -/
def readGroups (first : Bool) : Nat → List Char → List Nat × Bool × List Char
  | 0, cs => ([], false, cs)
  | limit + 1, cs =>
    let entry : Option (List Char) := if first then some cs else match cs with
      | ':' :: cs => some cs
      | _ => none
    match entry with
    | none => ([], false, cs)
    | some inner =>
      match (if 1 ≤ limit then readPair inner else none) with
      | some (pair, rest) => (pair, true, rest)
      | none =>
        match readGroup inner with
        | none => ([], false, cs)
        | some (group, rest) =>
          let (groups, octets, rest) := readGroups false limit rest
          (group :: groups, octets, rest)

/-- The eight groups of an address at the front of a text. -/
def readIpv6 (cs : List Char) : Option (List Nat × List Char) :=
  let (head, octets, rest) := readGroups true 8 cs
  if head.length = 8 then some (head, rest)
  else if octets then none
  else match rest with
    | ':' :: ':' :: rest =>
      let (tail, _, rest) := readGroups true (7 - head.length) rest
      some (head ++ List.replicate (8 - head.length - tail.length) 0 ++ tail, rest)
    | _ => none

end Address

end FeedFanout
