import FeedFanout.Document.Path
import FeedFanout.Settings.Library
import FeedFanout.Text.Lower
import FeedFanout.Text.Utf8

/-!
Where settings are read: files, found by their name with or without an extension, and variables of the environment.
-/
namespace FeedFanout.Settings

/-- The files of a directory, by their paths from there. -/
structure Files where
  directory : String
  rows : List (String × ByteArray)

namespace Files

/-- The parts of a path, without those that lead nowhere. -/
def parts (path : String) : List String := (path.splitOn "/").filter fun part => part ≠ "" ∧ part ≠ "."

def isAbsolute (path : String) : Bool := path.toList.head? = some '/'

/-- The path without parts that lead nowhere. -/
def tidy (path : String) : String := (if isAbsolute path then "/" else "") ++ "/".intercalate (parts path)

/-- The path from the root of all files. -/
def located (files : Files) (path : String) : String :=
  if isAbsolute path then path else s!"{files.directory}/{path}"

/-! ### Places

A place is the list of names that lead to it, the last one first. -/

/-- The place to which one part of a path leads. Two points lead back. -/
def step (place : List String) (part : String) : List String := if part = ".." then place.drop 1 else part :: place

/-- The parts of a path lead through `target` from `place` on. -/
def leadsThrough (target place : List String) : List String → Bool
  | [] => false
  | part :: rest => place = target || leadsThrough target (step place part) rest

/-- Some file is reached through this place. -/
def isDirectory (files : Files) (absolute : Bool) (place : List String) : Bool :=
  files.rows.any fun (path, _) => isAbsolute path = absolute && leadsThrough place [] (parts path)

/-- The place to which parts of a path lead if all of them but the last lead to directories. No two points lead out of
the directory at which the path starts. -/
def reach? (files : Files) (absolute : Bool) (place : List String) : List String → Option (List String)
  | [] => some place
  | part :: rest =>
    if part = ".." then
      match place with
      | [] => none
      | _ :: place => reach? files absolute place rest
    else if rest.isEmpty || files.isDirectory absolute (part :: place) then reach? files absolute (part :: place) rest
    else none

/-- The path names a directory by its last part, whatever that is. -/
def endsInside (path : String) : Bool :=
  match (path.splitOn "/").getLast? with
  | some last => last = "" || last = "." || last = ".."
  | none => true

/-- What a file holds. -/
def read? (files : Files) (path : String) : Option ByteArray :=
  match files.rows.lookup path with
  | some bytes => some bytes
  | none =>
    if endsInside path then none
    else match files.reach? (isAbsolute path) [] (parts path) with
      | none => none
      | some place =>
        let isThere (row : String × ByteArray) : Bool :=
          isAbsolute row.1 = isAbsolute path && (parts row.1).foldl step [] = place
        (files.rows.find? isThere).map Prod.snd

/-- What stands behind the last point of a name, which does not start with it. -/
def extensionOf (path : String) : String :=
  let name := ((parts path).getLast?.getD "").toList
  let back := name.reverse.takeWhile (· ≠ '.')
  if back.length + 1 < name.length then String.ofList back.reverse else ""

end Files

/-- Why a file does not yield a document. -/
inductive FileError
  /-- The file is there, but its name has no known extension. -/
  | unsupported (path : String)
  | missing (name : String)
  /-- Whoever read the document says what is wrong with it. -/
  | malformed (cause path : String)
deriving DecidableEq, Repr

def FileError.message : FileError → String
  | .unsupported path => s!"configuration file \"{path}\" is not of a supported file format"
  | .missing name => s!"configuration file \"{name}\" not found"
  | .malformed cause path => s!"{cause} in {path}"

namespace Files

/-- The paths with a known extension behind a name. There are none if the path ends in no name. -/
def extended (library : Library) (name : String) : List (Format × String) :=
  match (parts name).getLast? with
  | none => []
  | some last => if last = ".." then [] else library.extend (tidy name)

/-- The paths at which a name is looked for. -/
def candidates (library : Library) (name : String) : List String := name :: (extended library name).map Prod.snd

/-- The file with exactly this name, or else with a known extension behind it. -/
def find (files : Files) (library : Library) (name : String) : Except FileError (Format × String × ByteArray) :=
  match files.read? name with
  | some bytes =>
    match library.format? (extensionOf name) with
    | some format => .ok (format, tidy name, bytes)
    | none => .error (.unsupported (files.located name))
  | none =>
    let found := (extended library name).findSome? fun (format, path) =>
      (files.read? path).map fun bytes => (format, path, bytes)
    match found with
    | some found => .ok found
    | none => .error (.missing name)

/-- A text without the mark of the byte order at its front. -/
def withoutMark (text : String) : String :=
  match text.toList with
  | '\uFEFF' :: rest => String.ofList rest
  | _ => text

/-- The text in these bytes, whatever they are. -/
def textOf (bytes : ByteArray) : String := withoutMark (String.ofList (Text.Utf8.repair bytes.data.toList))

/-- The document in a file. Where the file may be missing, one of another format is passed over too. -/
def document (files : Files) (library : Library) (required : Bool) (name : String) : Except FileError Rows :=
  match files.find library name with
  | .error e => if required then .error e else .ok .empty
  | .ok (format, path, bytes) =>
    match library.read format (textOf bytes) with
    | .ok rows => .ok ⟨Node.markRows (some (.file path)) rows.rows⟩
    | .error cause => .error (.malformed cause path)

end Files

/-- Variables of the environment. -/
structure Environment where
  rows : List (String × String)

namespace Environment

def get? (env : Environment) (name : String) : Option String := env.rows.lookup name

/-- Variables from a block of texts with a zero behind each; an equals sign divides name and value. -/
def ofBlock (block : String) : Environment :=
  ⟨(block.splitOn "\x00").filterMap fun entry =>
    let name := entry.toList.takeWhile (· ≠ '=')
    match entry.toList.drop name.length with
    | _ :: value => some (String.ofList name, String.ofList value)
    | [] => none⟩

/-- How the names of variables with settings start, in small letters. -/
def mark : List Char := "homefeed__".toList

/-- Two underscores divide a name like a point. -/
def divide : List Char → List Char
  | '_' :: '_' :: cs => '.' :: divide cs
  | c :: cs => c :: divide cs
  | [] => []

/-- The key of a variable, if it is one with settings. -/
def key? (name : String) : Option String :=
  let name := (Text.lower name).toList
  if mark.isPrefixOf name then some (String.ofList (divide (name.drop mark.length))) else none

/-- The settings among the variables, all as texts. -/
def document (env : Environment) : Rows :=
  env.rows.foldl (fun rows (name, value) =>
    match key? name with
    | some key => rows.set key (.scalar (.text value) (some .environment))
    | none => rows) .empty

end Environment

end FeedFanout.Settings
