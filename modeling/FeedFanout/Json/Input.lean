/-!
JSON documents as they are read, and positions in them: a line and a number of bytes in it. Whoever reads a document
keeps account of the bytes that are still to come, from which the position follows (`Input.position_append`).
-/
namespace FeedFanout.Json

/-- A document as it is read: characters, and `none` for a byte that belongs to no character. -/
abbrev Input := List (Option Char)

/-- A line, counted from one, and the bytes of it that stand before the position. -/
structure Position where
  line : Nat
  column : Nat
deriving DecidableEq, Repr

namespace Input

def ofString (s : String) : Input := s.toList.map some

/-- The bytes of a character. -/
def width : Option Char → Nat
  | some c => c.utf8Size
  | none => 1

def size : Input → Nat
  | [] => 0
  | c :: rest => width c + size rest

/-- What the first `n` bytes hold: characters, and so many bytes of the next one. -/
def front : Nat → Input → Input × Nat
  | _, [] => ([], 0)
  | n, c :: rest =>
    if n < width c then ([], n)
    else
      let (before, part) := front (n - width c) rest
      (c :: before, part)

/-- The position where so many bytes are still to come. -/
def position (input : Input) (left : Nat) : Position :=
  let (before, part) := front (size input - left) input
  ⟨1 + before.count (some '\n'), size (before.reverse.takeWhile (· ≠ some '\n')) + part⟩

theorem size_append (before after : Input) : size (before ++ after) = size before + size after := by
  induction before with
  | nil => exact (Nat.zero_add _).symm
  | cons c before ih => rw [List.cons_append, size, ih, size, Nat.add_assoc]

theorem front_append (before after : Input) : front (size before) (before ++ after) = (before, 0) := by
  induction before with
  | nil =>
    cases after with
    | nil => rfl
    | cons c rest =>
      have positive : 0 < width c := by
        cases c with
        | none => exact Nat.one_pos
        | some c => exact c.utf8Size_pos
      exact if_pos positive
  | cons c before ih =>
    have inside : ¬size (c :: before) < width c := by simp [size]
    have left : size (c :: before) - width c = size before := by simp [size]
    rw [List.cons_append, front, if_neg inside, left, ih]

/-- Between characters the position is told by what stands before it: the line breaks, and what is behind the last. -/
theorem position_append (before after : Input) :
    position (before ++ after) (size after) =
      ⟨1 + before.count (some '\n'), size (before.reverse.takeWhile (· ≠ some '\n'))⟩ := by
  rw [position, size_append, Nat.add_sub_cancel, front_append]
  rfl

end Input

/-- What is wrong with the grammar of a document. -/
inductive Flaw
  | listEnds
  | objectEnds
  | stringEnds
  | valueEnds
  | colon
  | listComma
  | objectComma
  | word
  | value
  | escape
  | number
  | range
  | codePoint
  | control
  | key
  | surrogate
  | comma
  | trailing
  | hexEscapeEnds
deriving DecidableEq, Repr

def Flaw.message : Flaw → String
  | .listEnds => "EOF while parsing a list"
  | .objectEnds => "EOF while parsing an object"
  | .stringEnds => "EOF while parsing a string"
  | .valueEnds => "EOF while parsing a value"
  | .colon => "expected `:`"
  | .listComma => "expected `,` or `]`"
  | .objectComma => "expected `,` or `\x7d`"
  | .word => "expected ident"
  | .value => "expected value"
  | .escape => "invalid escape"
  | .number => "invalid number"
  | .range => "number out of range"
  | .codePoint => "invalid unicode code point"
  | .control => "control character (\\u0000-\\u001F) found while parsing a string"
  | .key => "key must be a string"
  | .surrogate => "lone leading surrogate in hex escape"
  | .comma => "trailing comma"
  | .trailing => "trailing characters"
  | .hexEscapeEnds => "unexpected end of hex escape"

end FeedFanout.Json
