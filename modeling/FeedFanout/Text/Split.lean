/-!
Texts in parts. There is one part more than there are separators.
-/
namespace FeedFanout.Text

/-- The parts between separators. -/
def split (isSeparator : Char → Bool) : List Char → List (List Char)
  | [] => [[]]
  | c :: cs =>
    if isSeparator c then [] :: split isSeparator cs
    else match split isSeparator cs with
      | part :: parts => (c :: part) :: parts
      | [] => [[c]]

end FeedFanout.Text
