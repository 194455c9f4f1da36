import FeedFanout.Document.Json
import FeedFanout.Document.Toml

/-!
Formats of settings files, and what settings take from a library that reads them. Nothing else is known of the library,
neither how it reads a format nor what it says of a text that it cannot read; `Library.plain` is one for two formats.
-/
namespace FeedFanout.Settings

/-- A document format. -/
inductive Format
  | toml
  | json
  | yaml
  | ini
  | ron
  | json5
deriving DecidableEq, Repr

/-- The extensions of file names by which a format is known. -/
def Format.extensions : Format → List String
  | .toml => ["toml"]
  | .json => ["json"]
  | .yaml => ["yaml", "yml"]
  | .ini => ["ini"]
  | .ron => ["ron"]
  | .json5 => ["json5"]

structure Library where
  /-- The formats that it knows, in the order in which they are tried for a name without an extension. -/
  formats : List Format
  /-- The document in a text, or what is wrong with the text. -/
  read : Format → String → Except String Rows

namespace Library

def format? (library : Library) (extension : String) : Option Format :=
  library.formats.find? (extension ∈ ·.extensions)

/-- The names to try for one without an extension. -/
def extend (library : Library) (name : String) : List (Format × String) :=
  library.formats.flatMap fun format => format.extensions.map fun extension => (format, s!"{name}.{extension}")

/-- A library for TOML and JSON. -/
def plain : Library where
  formats := [.toml, .json]
  read format text :=
    let rows? := match format with
      | .toml => Document.Toml.read? text
      | .json => Document.Json.read? text
      | _ => none
    match rows? with
    | some rows => .ok rows
    | none => .error "malformed document"

end Library

end FeedFanout.Settings
