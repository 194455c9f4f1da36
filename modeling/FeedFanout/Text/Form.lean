import FeedFanout.Text.Percent
import FeedFanout.Text.Split
import FeedFanout.Text.Utf8

/-!
Forms in query strings: names and values with equals signs, pairs with ampersands between them. Plus signs stand for
spaces, and bytes may be percent-encoded.
-/
namespace FeedFanout.Text.Form

/-- The text of a name or a value. -/
def decode (part : List Char) : List Char :=
  Utf8.repair (Percent.decode ((String.ofList part).toUTF8.toList.map fun b => if b = 0x2B then 0x20 else b))

/-- Names and values in order. -/
def pairs (query : List Char) : List (List Char × List Char) :=
  ((split (· = '&') query).filter (!·.isEmpty)).map fun part =>
    (decode (part.takeWhile (· ≠ '=')), decode ((part.dropWhile (· ≠ '=')).drop 1))

end FeedFanout.Text.Form
