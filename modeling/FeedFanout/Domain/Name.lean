import FeedFanout.Domain.Punycode
import FeedFanout.Text.Direction
import FeedFanout.Text.Joining
import FeedFanout.Text.Lower
import FeedFanout.Text.Shapeless
import FeedFanout.Text.Split

/-!
Names of hosts in the characters of all scripts. `Name.read?` gives a name its usual form: small letters, plain digits
and points, and no invisible characters; it refuses a name that holds characters no name may hold, or whose labels are
not well formed. Of compatibility characters only full forms, digits and points are replaced.
-/
namespace FeedFanout.Domain

/-! ### Characters -/

/-- Characters of ASCII that no name holds. -/
def isForbidden (c : Char) : Bool := c.toNat ≤ 32 || c.toNat = 127 || "%#/:<>?@[\\]^|".toList.contains c

/-- Characters that stand for forbidden ones, that tell how others are composed, or that replace others. -/
def refusedRanges : Array (Nat × Nat) := #[
  (0xA8, 0xA8), (0xAF, 0xAF), (0xB4, 0xB4), (0xB8, 0xB8), (0x2D8, 0x2DD), (0x37A, 0x37A), (0x384, 0x385),
  (0x1FBD, 0x1FBD), (0x1FBF, 0x1FC1), (0x1FCD, 0x1FCF), (0x1FDD, 0x1FDF), (0x1FED, 0x1FEE), (0x1FFD, 0x1FFE),
  (0x2017, 0x2017), (0x203E, 0x203E), (0x2047, 0x2049), (0x2100, 0x2101), (0x2105, 0x2106), (0x2A74, 0x2A74),
  (0x2FF0, 0x2FFF), (0x309B, 0x309C), (0x31EF, 0x31EF), (0xFC5E, 0xFC63), (0xFDFA, 0xFDFB), (0xFE13, 0xFE13),
  (0xFE16, 0xFE16), (0xFE47, 0xFE4C), (0xFE55, 0xFE56), (0xFE5F, 0xFE5F), (0xFE64, 0xFE65), (0xFE68, 0xFE68),
  (0xFE6A, 0xFE6B), (0xFE70, 0xFE70), (0xFE72, 0xFE72), (0xFE74, 0xFE74), (0xFE76, 0xFE76), (0xFE78, 0xFE78),
  (0xFE7A, 0xFE7A), (0xFE7C, 0xFE7C), (0xFE7E, 0xFE7E), (0xFFE3, 0xFFE3), (0xFFFC, 0xFFFD)]

/-- Invisible characters that are left out. -/
def ignoredRanges : Array (Nat × Nat) := #[
  (0xAD, 0xAD), (0x34F, 0x34F), (0x180B, 0x180D), (0x180F, 0x180F), (0x200B, 0x200B), (0x2060, 0x2060),
  (0x2064, 0x2064), (0xFE00, 0xFE0F), (0xFEFF, 0xFEFF), (0x1BCA0, 0x1BCA3), (0xE0100, 0xE01EF)]

/-- Runs of digits: the first and the last one, and what the first one stands for. -/
def digitRuns : List (Nat × Nat × Nat) :=
  [(0xB2, 0xB3, 2), (0xB9, 0xB9, 1), (0x2070, 0x2070, 0), (0x2074, 0x2079, 4), (0x2080, 0x2089, 0),
    (0x2460, 0x2468, 1), (0x24EA, 0x24EA, 0), (0x1D7CE, 0x1D7D7, 0), (0x1D7D8, 0x1D7E1, 0), (0x1D7E2, 0x1D7EB, 0),
    (0x1D7EC, 0x1D7F5, 0), (0x1D7F6, 0x1D7FF, 0), (0x1CCF0, 0x1CCF9, 0),
    (0x1FBF0, 0x1FBF9, 0)]

/-- The plain digit that a character stands for. -/
def digit? (c : Char) : Option Char :=
  (digitRuns.find? fun (first, last, _) => first ≤ c.toNat && c.toNat ≤ last).map fun (first, _, value) =>
    Char.ofNat (48 + value + (c.toNat - first))

/-- The points that a character stands for. -/
def points (c : Char) : Nat :=
  if "\u3002\uff0e\uff61\u2024\ufe52".toList.contains c then 1
  else if "\u2025\ufe30".toList.contains c then 2
  else if "\u2026\ufe19".toList.contains c then 3
  else 0

/-- The plain character that a full form stands for. -/
def narrow (c : Char) : Char := if '\uff01' ≤ c && c ≤ '\uff5e' then Char.ofNat (c.toNat - 0xFEE0) else c

/-- Joins the characters beside it, or keeps them apart. -/
def isJoiner (c : Char) : Bool := c = '\u200c' || c = '\u200d'

/-- No name holds the character, nor what it stands for. -/
def isRefused (c : Char) : Bool :=
  if c.toNat < 128 then isForbidden c
  else Text.isWithin refusedRanges c || (Text.isShapeless c && !Text.isMark c && !isJoiner c)

/-- What a character of a name stands for. -/
def meaning? (c : Char) : Option (List Char) :=
  if Text.isWithin ignoredRanges c then some []
  else if isRefused (narrow c) then none
  else match points c, digit? c with
    | 0, some digit => some [digit]
    | 0, none => some [Text.lowerChar (narrow c)]
    | n, _ => some (List.replicate n '.')

/-! ### Labels -/

/-- How labels begin that are written with ASCII alone. -/
def mark : List Char := "xn--".toList

/-- A label in its own characters. -/
def decodeLabel? (label : List Char) : Option (List Char) :=
  if mark.isPrefixOf label then
    match Punycode.decode? (label.drop mark.length) with
    | some own => if own.all (fun c => meaning? c = some [c]) && own.any (128 ≤ ·.toNat) then some own else none
    | none => none
  else some label

/-- Joiners stand behind marks that silence a vowel. The one that keeps letters apart may also stand where they would be
joined, whatever marks are between. `before` is what stands before the rest of the label, latest first. -/
def joinersFit (before : List Char) : List Char → Bool
  | [] => true
  | c :: cs =>
    let between := (before.dropWhile Text.isNonspacing).head?.any Text.joinsOn &&
      (cs.dropWhile Text.isNonspacing).head?.any Text.joinsBack
    (!isJoiner c || before.head?.any Text.isVirama || c = '\u200c' && between) && joinersFit (c :: before) cs

/-- Some character asks for the directions of all to be looked at. -/
def hasDirection (label : List Char) : Bool :=
  label.any fun c => Text.directionOf c = .rightToLeft || Text.directionOf c = .arabicNumber

/-- The characters of a label are all written in the direction of its first one, as far as they have any. -/
def isDirected (label : List Char) : Bool :=
  let directions := label.map Text.directionOf
  let last := (directions.reverse.dropWhile (· = .mark)).head?
  match directions.head? with
  | none => true
  | some .leftToRight =>
    !hasDirection label && (last = some .leftToRight || last = some .number)
  | some .rightToLeft =>
    !directions.contains .leftToRight && !(directions.contains .number && directions.contains .arabicNumber) &&
      (last = some .rightToLeft || last = some .number || last = some .arabicNumber)
  | some _ => false

def isLabel (label : List Char) : Bool := !label.head?.any Text.isMark && joinersFit [] label

/-! ### Names -/

/-- The usual form of a name, with labels as they were written. -/
def read? (name : List Char) : Option (List Char) :=
  match name.mapM meaning? with
  | none => none
  | some meanings =>
    let usual := meanings.flatten
    match (Text.split (· = '.') usual).mapM decodeLabel? with
    | none => none
    | some labels =>
      if labels.all isLabel && (!labels.any hasDirection || labels.all isDirected) then some usual else none

end FeedFanout.Domain
