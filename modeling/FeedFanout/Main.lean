import FeedFanout.CommandLine.Invocation
import FeedFanout.Settings.Load
import FeedFanout.Telemetry

/-!
The command line: prints the help that was asked for, or the settings that the service is to run with, or why there
are none.
-/
namespace FeedFanout.Main

/-- What a file holds that can be read. -/
def fileBytes? (path : String) : IO (Option ByteArray) := do
  try
    return some (← IO.FS.readBinFile path)
  catch _ =>
    return none

/-- The files at the paths at which these names are looked for. -/
def readFiles (library : Settings.Library) (names : List String) : IO Settings.Files := do
  let directory ← IO.currentDir
  let paths := names.flatMap (Settings.Files.candidates library)
  let rows ← paths.filterMapM fun path => do
    return (← fileBytes? path).map fun bytes => (path, bytes)
  return ⟨toString directory, rows⟩

/-- The variables of this process. -/
def readEnvironment : IO Settings.Environment := do
  try
    let bytes ← IO.FS.readBinFile "/proc/self/environ"
    return .ofBlock (String.ofList (Text.Utf8.repair bytes.data.toList))
  catch _ =>
    return ⟨[]⟩

/-- Runs a command line and answers the exit code. -/
def run (library : Settings.Library) (words : List String) : IO UInt32 := do
  let env ← readEnvironment
  match CommandLine.read env words with
  | .error refusal =>
    if refusal.exitCode = 0 then IO.print refusal.message else IO.eprintln refusal.message
    return UInt32.ofNat refusal.exitCode
  | .ok invocation =>
    let names := [Settings.defaultFile, Settings.localFile] ++ invocation.configFile.toList
    match Settings.load library (← readFiles library names) env invocation.configFile invocation.overrides with
    | .ok settings =>
      settings.lines.forM IO.println
      return 0
    | .error e =>
      IO.eprintln (StartupError.configuration e.message).message
      return 1

end FeedFanout.Main

def main (words : List String) : IO UInt32 := FeedFanout.Main.run .plain words
