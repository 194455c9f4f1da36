import FeedFanout.Text.Split

/-!
Paths of URLs. A part of one point leads nowhere and a part of two points leads back; a point may be written as `%2e`.
-/
namespace FeedFanout.Database.Path

/-- The part with its points written plainly. -/
def withPoints : List Char → List Char
  | '%' :: '2' :: 'e' :: cs => '.' :: withPoints cs
  | '%' :: '2' :: 'E' :: cs => '.' :: withPoints cs
  | c :: cs => c :: withPoints cs
  | [] => []

/-- A letter of a drive, from which no part leads back. -/
def isDrive (part : List Char) : Bool :=
  match part with
  | [c, mark] => c.isAlpha && (mark = ':' || mark = '|')
  | _ => false

/-- The parts, latest first, without the last one. -/
def leadBack : List (List Char) → List (List Char)
  | [] => []
  | part :: before => if isDrive part then part :: before else before

/-- The parts that are left, put behind `before` (latest first). A path that ends with points ends with a slash. -/
def simplifyFrom (before : List (List Char)) : List (List Char) → List (List Char)
  | [] => before.reverse
  | part :: parts =>
    let ending : List (List Char) := if parts.isEmpty then [[]] else []
    match withPoints part with
    | ['.', '.'] => simplifyFrom (ending ++ leadBack before) parts
    | ['.'] => simplifyFrom (ending ++ before) parts
    | _ => simplifyFrom (part :: before) parts

/-- A path behind its first slash, without parts that lead nowhere or back. -/
def simplify (isSlash : Char → Bool) (path : List Char) : List Char :=
  ['/'].intercalate (simplifyFrom [] (Text.split isSlash path))

end FeedFanout.Database.Path
