import FeedFanout.Settings.Basic
import FeedFanout.Settings.Convert
import FeedFanout.Settings.Source

/-!
Loading settings. Layers are laid over one another, from the lowest: the default file, the local file, a file that was
named, the environment, and the command line; what they leave open has a default, and the result is checked. The files
are read by any `Library`.
-/
namespace FeedFanout.Settings

/-- Why there are no settings to run with. -/
inductive LoadError
  | file (error : FileError)
  | mismatch (mismatch : Mismatch)
  | invalid (error : Invalid)

namespace LoadError

def message : LoadError → String
  | .file error => s!"failed to build configuration: {error.message}"
  | .mismatch m => s!"failed to build configuration: {m.message}"
  | .invalid error => error.message

end LoadError

/-- The default file, without its extension. -/
def defaultFile : String := "config/default"

/-- The local file, without its extension. -/
def localFile : String := "homefeed"

/-- What the files and the environment say, the lowest layer first. -/
def layers (library : Library) (files : Files) (env : Environment) (named : Option String) :
    Except FileError (List Rows) := do
  let lowest ← files.document library false defaultFile
  let next ← files.document library false localFile
  let chosen ← match named with
    | some name => (files.document library true name).map fun rows => [rows]
    | none => .ok []
  return [lowest, next] ++ chosen ++ [env.document]

/-- The values that the files and the environment give to the keys. -/
def loadDraft (library : Library) (files : Files) (env : Environment) (named : Option String) :
    Except LoadError Draft := do
  let layers ← (layers library files env named).mapError .file
  let document := layers.foldl (fun lower layer => Node.overlay layer lower) (.table .empty none)
  (Draft.ofDocument document).mapError .mismatch

/-- The settings, where the command line has `overrides`. -/
def load (library : Library) (files : Files) (env : Environment) (named : Option String) (overrides : Draft) :
    Except LoadError Settings := do
  let draft ← loadDraft library files env named
  (ofDraft (overrides.onto draft)).mapError .invalid

end FeedFanout.Settings
