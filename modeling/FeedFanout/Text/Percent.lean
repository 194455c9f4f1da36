import FeedFanout.Text.Hex

/-!
Percent encoding: `%` and two hexadecimal digits stand for a byte. A sign that no two digits follow stands for itself,
and so does every other byte.
-/
namespace FeedFanout.Text.Percent

/-- The byte that three bytes stand for together. -/
def byte? (sign high low : UInt8) : Option UInt8 :=
  if sign = 0x25 then
    match Hex.value? (Char.ofNat high.toNat), Hex.value? (Char.ofNat low.toNat) with
    | some h, some l => some (UInt8.ofNat (16 * h + l))
    | _, _ => none
  else none

/-- The bytes that encoded bytes stand for. -/
def decode : List UInt8 → List UInt8
  | b :: high :: low :: rest =>
    match byte? b high low with
    | some byte => byte :: decode rest
    | none => b :: decode (high :: low :: rest)
  | bytes => bytes

/-- The bytes that a text stands for. -/
def bytes (text : List Char) : List UInt8 := decode (String.ofList text).toUTF8.toList

end FeedFanout.Text.Percent
