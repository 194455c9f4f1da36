/-!
Bytes read as UTF-8, one character or one stray byte at a time. A byte that begins no character is kept as `none`,
so that every ASCII byte is seen whatever stands around it. A flaw is as many bytes as could begin a character.
-/
namespace FeedFanout.Text.Utf8

/-- The characters from byte `i` on, put behind `before` (latest first). -/
def readFrom (bytes : ByteArray) (i : Nat) (before : List (Option Char)) : List (Option Char) :=
  if i < bytes.size then
    match bytes.utf8DecodeChar? i with
    | some c => readFrom bytes (i + c.utf8Size) (some c :: before)
    | none => readFrom bytes (i + 1) (none :: before)
  else before.reverse
termination_by bytes.size - i
decreasing_by
  · have := c.utf8Size_pos; omega
  · omega

def read (bytes : ByteArray) : List (Option Char) := readFrom bytes 0 []

/-! ### Flaws -/

/-- Where bytes cease to be text. -/
structure Flaw where
  start : Nat
  /-- How many bytes begin no character; absent if the bytes end inside one. -/
  length : Option Nat
deriving DecidableEq, Repr

def Flaw.message (flaw : Flaw) : String :=
  match flaw.length with
  | some length => s!"invalid utf-8 sequence of {length} bytes from index {flaw.start}"
  | none => s!"incomplete utf-8 byte sequence from index {flaw.start}"

def isContinuation (b : UInt8) : Bool := 0x80 ≤ b && b ≤ 0xBF

/-- How many bytes a character with this first byte has, and the least and the greatest second byte. -/
def lead? (b : UInt8) : Option (Nat × UInt8 × UInt8) :=
  if b = 0xE0 then some (3, 0xA0, 0xBF)
  else if b = 0xED then some (3, 0x80, 0x9F)
  else if b = 0xF0 then some (4, 0x90, 0xBF)
  else if b = 0xF4 then some (4, 0x80, 0x8F)
  else if 0xC2 ≤ b && b ≤ 0xDF then some (2, 0x80, 0xBF)
  else if 0xE0 ≤ b && b ≤ 0xEF then some (3, 0x80, 0xBF)
  else if 0xF0 ≤ b && b ≤ 0xF3 then some (4, 0x80, 0xBF)
  else none

/-- How many of these bytes, which begin no character, could begin one if others followed; absent if all of them. -/
def flawLength? (bytes : List UInt8) : Option Nat :=
  match bytes with
  | [] => none
  | b :: rest =>
    match lead? b, rest with
    | none, _ => some 1
    | some _, [] => none
    | some (width, low, high), second :: later =>
      if second < low || high < second then some 1
      else
        let good := (later.take (width - 2)).takeWhile isContinuation
        if later.length ≤ good.length then none else some (2 + good.length)

/-- The first flaw from byte `i` on. -/
def flawFrom? (bytes : ByteArray) (i : Nat) : Option Flaw :=
  if i < bytes.size then
    match bytes.utf8DecodeChar? i with
    | some c => flawFrom? bytes (i + c.utf8Size)
    | none => some ⟨i, flawLength? (bytes.toList.drop i)⟩
  else none
termination_by bytes.size - i
decreasing_by have := c.utf8Size_pos; omega

def flaw? (bytes : List UInt8) : Option Flaw := flawFrom? ⟨bytes.toArray⟩ 0

/-- The characters from byte `i` on, put behind `before` (latest first). -/
def repairFrom (bytes : ByteArray) (i : Nat) (before : List Char) : List Char :=
  if i < bytes.size then
    match bytes.utf8DecodeChar? i with
    | some c => repairFrom bytes (i + c.utf8Size) (c :: before)
    | none =>
      match flawLength? (bytes.toList.drop i) with
      | some length => repairFrom bytes (i + max length 1) ('\uFFFD' :: before)
      | none => ('\uFFFD' :: before).reverse
  else before.reverse
termination_by bytes.size - i
decreasing_by
  · have := c.utf8Size_pos; omega
  · omega

/-- The text of these bytes, with one replacement character in place of each flaw. -/
def repair (bytes : List UInt8) : List Char := repairFrom ⟨bytes.toArray⟩ 0 []

end FeedFanout.Text.Utf8
