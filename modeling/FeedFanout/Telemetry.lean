import FeedFanout.Metrics

/-!
Starting up: errors that stop the program, and the one log subscriber that a process may have.
-/
namespace FeedFanout

/-- Why the program could not start, or go on. -/
inductive StartupError
  | io (message : String)
  | database (message : String)
  | telemetry (message : String)
  | configuration (message : String)
  | unexpected (message : String)
deriving DecidableEq, Repr

namespace StartupError

def message : StartupError → String
  | .io message => s!"io error: {message}"
  | .database message => s!"database error: {message}"
  | .telemetry message => s!"telemetry initialization failed: {message}"
  | .configuration message => s!"configuration error: {message}"
  | .unexpected message => s!"unexpected error: {message}"

/-- Only an error of input or output has another error under it. -/
def chain (e : StartupError) : List String :=
  match e with
  | .io message => [e.message, message]
  | _ => [e.message]

end StartupError

/-- What a process has set up for its logs and metrics. -/
structure Telemetry where
  installed : Bool
  described : List Metric.Description

namespace Telemetry

def none : Telemetry := ⟨false, []⟩

/-- Installs the subscriber, once. Metrics are described the first time. -/
def install (t : Telemetry) : Option StartupError × Telemetry :=
  let described := if t.described.isEmpty then Metric.descriptions else t.described
  if t.installed then
    (some (.telemetry "failed to install tracing subscriber: a global default trace dispatcher has already been set"),
      { t with described })
  else (Option.none, ⟨true, described⟩)

end Telemetry

end FeedFanout
