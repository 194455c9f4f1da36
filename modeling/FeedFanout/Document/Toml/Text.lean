import FeedFanout.Text.Hex

/-!
Blanks, comments, strings and keys of TOML documents. A string stands between quotes, on one line or between three
quotes on many; between double quotes a backslash escapes, between single quotes nothing does.
-/
namespace FeedFanout.Document.Toml

def isGap (c : Char) : Bool := c = ' ' || c = '\t'

def skipGap (cs : List Char) : List Char := cs.dropWhile isGap

/-- Control characters other than the tab; they may not stand in comments and strings. -/
def isControl (c : Char) : Bool := (c.toNat < 32 && c ≠ '\t') || c.toNat = 127

/-- What follows a line break at the front. -/
def newline? : List Char → Option (List Char)
  | '\n' :: cs => some cs
  | '\r' :: '\n' :: cs => some cs
  | _ => none

/-- Drops a comment at the front, if there is one. -/
def skipComment (cs : List Char) : List Char :=
  match cs with
  | '#' :: cs => cs.dropWhile fun c => !isControl c
  | cs => cs

/-- Drops blanks, comments and line breaks; `fuel` bounds the number of lines. -/
def skipLines : Nat → List Char → List Char
  | 0, cs => cs
  | fuel + 1, cs =>
    let cs := skipComment (skipGap cs)
    match newline? cs with
    | some cs => skipLines fuel cs
    | none => cs

/-- Drops all there is before the next part of a document. -/
def skipSpace (cs : List Char) : List Char := skipLines cs.length cs

/-- Nothing but a comment is left on this line. -/
def endLine? (cs : List Char) : Option (List Char) :=
  match skipComment (skipGap cs) with
  | [] => some []
  | cs => newline? cs

/-! ### Strings -/

/-- A character by its number. -/
def scalar? (n : Nat) : Option Char :=
  if n < 0xD800 ∨ (0xDFFF < n ∧ n ≤ 0x10FFFF) then some (Char.ofNat n) else none

def byNumber? (digits : Nat) (cs : List Char) : Option (List Char × List Char) := do
  let (n, rest) ← Text.Hex.read? digits 0 cs
  return ([← scalar? n], rest)

/-- Drops blanks and line breaks behind a line that is joined to what follows. -/
def skipBreaks : List Char → List Char
  | '\r' :: '\n' :: cs => skipBreaks cs
  | ' ' :: cs | '\t' :: cs | '\n' :: cs => skipBreaks cs
  | cs => cs

/-- What a backslash stands for together with what follows it. In a string on many lines it may stand at the end of a
line, and joins it to the next character that is not blank. -/
def escape? (lines : Bool) : List Char → Option (List Char × List Char)
  | 'b' :: cs => some (['\x08'], cs)
  | 't' :: cs => some (['\t'], cs)
  | 'n' :: cs => some (['\n'], cs)
  | 'f' :: cs => some (['\x0c'], cs)
  | 'r' :: cs => some (['\r'], cs)
  | 'e' :: cs => some (['\x1b'], cs)
  | '"' :: cs => some (['"'], cs)
  | '\\' :: cs => some (['\\'], cs)
  | 'x' :: cs => byNumber? 2 cs
  | 'u' :: cs => byNumber? 4 cs
  | 'U' :: cs => byNumber? 8 cs
  | cs =>
    match lines, newline? (skipGap cs) with
    | true, some cs => some ([], skipBreaks cs)
    | _, _ => none

/-- Reads up to the closing quotes. `before` is what was read so far, latest first; `fuel` bounds the steps. Three to
five quotes close a string on many lines, and those beyond three belong to it. Its line breaks stay as they are. -/
def readString? (quote : Char) (lines : Bool) : Nat → List Char → List Char → Option (List Char × List Char)
  | 0, _, _ => none
  | _ + 1, _, [] => none
  | fuel + 1, before, c :: cs =>
    if c = quote then
      if !lines then some (before.reverse, cs)
      else
        let run := 1 + (cs.takeWhile (· = quote)).length
        if run < 3 then readString? quote lines fuel (List.replicate run quote ++ before) (cs.drop (run - 1))
        else
          let run := min run 5
          some ((List.replicate (run - 3) quote ++ before).reverse, cs.drop (run - 1))
    else if c = '\\' ∧ quote = '"' then
      match escape? lines cs with
      | some (meant, cs) => readString? quote lines fuel (meant.reverse ++ before) cs
      | none => none
    else if isControl c && !(lines && (newline? (c :: cs)).isSome) then none
    else readString? quote lines fuel (c :: before) cs

/-- The string at the front. A line break right after three opening quotes is dropped. -/
def string? (cs : List Char) : Option (List Char × List Char) :=
  let body (quote : Char) (lines : Bool) (cs : List Char) := readString? quote lines (cs.length + 1) [] cs
  match cs with
  | '"' :: '"' :: '"' :: cs => body '"' true ((newline? cs).getD cs)
  | '\'' :: '\'' :: '\'' :: cs => body '\'' true ((newline? cs).getD cs)
  | '"' :: cs => body '"' false cs
  | '\'' :: cs => body '\'' false cs
  | _ => none

/-! ### Keys -/

def isKeyChar (c : Char) : Bool := c.isAlphanum || c = '_' || c = '-'

/-- One part of a key: bare, or a string on one line. -/
def part? (cs : List Char) : Option (String × List Char) :=
  match cs with
  | '"' :: rest => (readString? '"' false (rest.length + 1) [] rest).map fun (name, rest) => (String.ofList name, rest)
  | '\'' :: rest =>
    (readString? '\'' false (rest.length + 1) [] rest).map fun (name, rest) => (String.ofList name, rest)
  | cs =>
    match cs.takeWhile isKeyChar with
    | [] => none
    | name => some (String.ofList name, cs.dropWhile isKeyChar)

/-- Parts with dots between them, the last part apart; `fuel` bounds their number. -/
def key? : Nat → List Char → Option (List String × String × List Char)
  | 0, _ => none
  | fuel + 1, cs => do
    let (part, rest) ← part? cs
    match skipGap rest with
    | '.' :: rest =>
      let (path, last, rest) ← key? fuel (skipGap rest)
      return (part :: path, last, rest)
    | rest => return ([], part, rest)

end FeedFanout.Document.Toml
