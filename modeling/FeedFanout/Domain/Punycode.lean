/-!
Labels of domain names written with ASCII alone. The ASCII characters of a label come first, and behind the last hyphen
numbers tell which other characters stand where: each number is the distance from one insertion to the next, counted
in places of the label and characters that may stand there.
-/
namespace FeedFanout.Domain.Punycode

/-- What a digit stands for: letters first, in either case. -/
def digit? (c : Char) : Option Nat :=
  if c.isAlpha then some (c.toLower.toNat - 97)
  else if c.isDigit then some (c.toNat - 48 + 26)
  else none

/-- The least digit that is not the last one of a number, at position `k`. -/
def threshold (bias k : Nat) : Nat := min 26 (max 1 (k - bias))

/-- One number, and what follows its last digit. -/
def number? (bias : Nat) : Nat → Nat → Nat → List Char → Option (Nat × List Char)
  | _, _, _, [] => none
  | k, weight, sum, c :: cs =>
    match digit? c with
    | none => none
    | some d =>
      let t := threshold bias k
      if d < t then some (sum + d * weight, cs) else number? bias (k + 36) (weight * (36 - t)) (sum + d * weight) cs

/-- Divides a distance until it is small, and adds to the bias with each step; `fuel` bounds the steps. -/
def shrink : Nat → Nat → Nat → Nat
  | 0, bias, _ => bias
  | fuel + 1, bias, distance =>
    if 455 < distance then shrink fuel (bias + 36) (distance / 35) else bias + 36 * distance / (distance + 38)

/-- The bias behind an insertion that made the label `length` characters long. -/
def adapt (isFirst : Bool) (distance length : Nat) : Nat :=
  let distance := if isFirst then distance / 700 else distance / 2
  let distance := distance + distance / length
  shrink distance 0 distance

/-- A label under way. -/
structure Draft where
  label : List Char
  /-- The place of the next insertion, at the earliest. -/
  place : Nat
  /-- The number of the next character, at the least. -/
  code : Nat
  bias : Nat

/-- Inserts the character that a distance leads to. -/
def Draft.insert? (draft : Draft) (distance : Nat) : Option Draft :=
  let length := draft.label.length + 1
  let target := draft.place + distance
  let code := draft.code + target / length
  let place := target % length
  if code < 0xD800 ∨ 0xDFFF < code ∧ code ≤ 0x10FFFF then
    some {
      label := draft.label.take place ++ Char.ofNat code :: draft.label.drop place
      place := place + 1, code, bias := adapt (draft.place = 0) distance length }
  else none

/-- Makes all insertions; `fuel` bounds their number. -/
def insertions? : Nat → Draft → List Char → Option (List Char)
  | _, draft, [] => some draft.label
  | 0, _, _ => none
  | fuel + 1, draft, cs =>
    match number? draft.bias 36 1 0 cs with
    | none => none
    | some (distance, rest) =>
      match draft.insert? distance with
      | none => none
      | some draft => insertions? fuel draft rest

/-- The label that a text stands for. -/
def decode? (cs : List Char) : Option (List Char) :=
  let numbers := (cs.reverse.takeWhile (· ≠ '-')).reverse
  let basic := cs.take (cs.length - numbers.length - 1)
  if basic.isEmpty then insertions? cs.length ⟨[], 0, 128, 72⟩ cs
  else if basic.all (·.toNat < 128) then insertions? cs.length ⟨basic, 0, 128, 72⟩ numbers
  else none

end FeedFanout.Domain.Punycode
