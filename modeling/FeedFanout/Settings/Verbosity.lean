import FeedFanout.Decimal.Integer
import FeedFanout.Log

/-!
How much is logged: nothing, or every record down to a level. Levels are named in letters of either case or numbered
from zero for none; an empty text means errors alone.
-/
namespace FeedFanout.Settings

inductive Verbosity
  | off
  | downTo (level : Level)
deriving DecidableEq, Repr

namespace Verbosity

/-- From least to most. -/
def all : List Verbosity := [.off, .downTo .error, .downTo .warn, .downTo .info, .downTo .debug, .downTo .trace]

/-- The name in small letters. -/
def name : Verbosity → String
  | .off => "off"
  | .downTo level => String.ofList (level.name.toList.map Char.toLower)

def parse? (text : String) : Option Verbosity :=
  let byNumber := match Decimal.parseNat Decimal.largestNat64 text.toList with
    | .ok n => all[n]?
    | .error _ => none
  match byNumber with
  | some verbosity => some verbosity
  | none =>
    if text.isEmpty then some (.downTo .error)
    else all.find? fun verbosity => verbosity.name = String.ofList (text.toList.map Char.toLower)

end Verbosity

end FeedFanout.Settings
