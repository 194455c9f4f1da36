/-!
Texts for a terminal. Escape sequences set the style of what follows them; `plain` is the text without them, and
without control characters other than blanks and line breaks. A sequence that is not finished takes away what stands
behind it, up to the next sequence.
-/
namespace FeedFanout.Text.Terminal

/-- Where a character stands. -/
inductive Mode
  /-- Outside all sequences. -/
  | ground
  /-- Behind the character that begins a sequence. -/
  | escape
  /-- Behind further characters that tell what kind of sequence it is. -/
  | select
  /-- Among the parameters of a sequence that ends with a letter. -/
  | control
  /-- In a text that belongs to the sequence, and whether the bell ends it. -/
  | string (bell : Bool)
deriving DecidableEq, Repr

/-- The control characters that are shown. -/
def isBlank (c : Char) : Bool := c = '\t' || c = '\n' || c = '\x0c' || c = '\r'

/-- Behind the character that begins a sequence. -/
def afterEscape (c : Char) : Mode :=
  if c = '[' then .control
  else if c = ']' then .string true
  else if c = 'P' || c = 'X' || c = '^' || c = '_' then .string false
  else if '\x20' ≤ c && c ≤ '\x2f' then .select
  else if '\x30' ≤ c && c ≤ '\x7e' then .ground
  else .escape

/-- Whether a character is shown, and the mode behind it. -/
def step (mode : Mode) (c : Char) : Bool × Mode :=
  if c = '\x1b' then (false, .escape)
  else if c = '\x18' || c = '\x1a' || '\x80' ≤ c && mode ≠ .ground then (false, .ground)
  else match mode with
    | .ground => (isBlank c || '\x20' ≤ c && c ≠ '\x7f', .ground)
    | .string bell => (false, if bell && c = '\x07' then .ground else mode)
    | .escape => if isBlank c then (true, .ground) else (false, afterEscape c)
    | .select =>
      if isBlank c then (true, .ground) else (false, if '\x30' ≤ c && c ≤ '\x7e' then .ground else .select)
    | .control =>
      if isBlank c then (true, .ground) else (false, if '\x40' ≤ c && c ≤ '\x7e' then .ground else .control)

/-- What is shown of a text that begins in a mode. -/
def shown : Mode → List Char → List Char
  | _, [] => []
  | mode, c :: cs =>
    let (isShown, mode) := step mode c
    if isShown then c :: shown mode cs else shown mode cs

/-- The text without styles. -/
def plain (text : String) : String := String.ofList (shown .ground text.toList)

/-- The text with a style of its own. -/
def styled (text : String) : String := s!"\x1b[1m{text}\x1b[0m"

end FeedFanout.Text.Terminal
