import FeedFanout.Text.Shapeless
import FeedFanout.Text.Hex

/-!
Texts between double quotes for diagnostics: quotes, backslashes and line breaks are escaped, and characters without a
shape of their own are given by number.
-/
namespace FeedFanout.Text.Quoted

/-- A number in lowercase hexadecimal without leading zeros. -/
def hex (n : Nat) : List Char := Nat.toDigits 16 n

def escape (c : Char) : List Char :=
  match c with
  | '"' => ['\\', '"']
  | '\\' => ['\\', '\\']
  | '\t' => ['\\', 't']
  | '\r' => ['\\', 'r']
  | '\n' => ['\\', 'n']
  | c =>
    if c.toNat = 0 then ['\\', '0']
    else if isShapeless c then '\\' :: 'u' :: '\x7b' :: hex c.toNat ++ ['\x7d']
    else [c]

def encode (s : String) : String := String.ofList ('"' :: s.toList.flatMap escape ++ ['"'])

end FeedFanout.Text.Quoted
