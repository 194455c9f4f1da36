import FeedFanout.Document.Basic
import FeedFanout.Decimal.Float
import FeedFanout.Settings.Key
import FeedFanout.Text.Quoted

/-!
Why a document does not yield settings: a value is not of the type that its key asks for, or a group is no table.
-/
namespace FeedFanout.Settings

/-- What was found in place of the value asked for. -/
inductive Found
  | unit
  | boolean (value : Bool)
  | integer (value : Int)
  | signed (value : Int)
  | unsigned (value : Nat)
  | float (value : Float)
  | text (value : String)
  | list
  | table

namespace Found

/-- A floating point number always shows a point. -/
def floatText (x : Float) : String :=
  let digits := Decimal.positional x
  if x.isFinite && !digits.toList.contains '.' then digits ++ ".0" else digits

def message : Found → String
  | .unit => "unit value"
  | .boolean value => s!"boolean `{value}`"
  | .integer value => s!"integer `{value}`"
  | .signed value => s!"64-bit integer `{value}`"
  | .unsigned value => s!"64-bit unsigned integer `{value}`"
  | .float value => s!"floating point `{floatText value}`"
  | .text value => s!"string {Text.Quoted.encode value}"
  | .list => "sequence"
  | .table => "map"

end Found

/-- What a key or a group asks for. -/
inductive Expected
  | text
  | flag
  | integer
  | nonnegative
  | atMost (largest : Nat)
  | group (group : Group)
deriving DecidableEq, Repr

namespace Expected

/-- The type of the values of a group, as it is named to the reader. -/
def groupType : Group → String
  | .server => "RawServerSettings"
  | .logging => "RawLoggingSettings"
  | .database => "RawDatabaseSettings"
  | .feed => "RawFeedSettings"
  | .notifier => "RawNotifierSettings"
  | .warmer => "RawWarmerSettings"

def message : Expected → String
  | .text => "a string"
  | .flag => "a boolean"
  | .integer => "an integer"
  | .nonnegative => "an unsigned 64 bit or less integer"
  | .atMost largest => s!"an unsigned {(largest + 1).log2} bit integer"
  | .group g => s!"struct {groupType g}"

end Expected

/-- A value that does not fit. Its place is the path of a key, or a group with a position in a list. -/
structure Mismatch where
  found : Found
  expected : Expected
  place : String
  origin : Option Origin

namespace Mismatch

def message (m : Mismatch) : String :=
  let source := match m.origin with
    | some origin => " in " ++ origin.text
    | none => ""
  s!"invalid type: {m.found.message}, expected {m.expected.message} for key `{m.place}`{source}"

end Mismatch

end FeedFanout.Settings
