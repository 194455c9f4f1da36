import FeedFanout.Entry
import FeedFanout.PostLog

/-!
Why a feed was not rebuilt, and what a run over all users reports.
-/
namespace FeedFanout

inductive WarmError
  | directory (error : StoreError)
  | friends (error : StoreError)
  | posts (error : StoreError)
  | cache (error : CacheError)

namespace WarmError

def message : WarmError → String
  | .directory error => s!"failed to list users: {error.message}"
  | .friends error => s!"failed to load friends: {error.message}"
  | .posts error => s!"failed to load posts: {error.message}"
  | .cache error => s!"failed to rebuild cached feed: {error.message}"

def sources : WarmError → List String
  | .directory error | .friends error | .posts error => error.chain
  | .cache error => error.chain

def chain (e : WarmError) : List String := e.message :: e.sources

end WarmError

/-- A user whose feed was not rebuilt. -/
structure WarmFailure where
  user : UserId
  error : String
deriving DecidableEq, Repr

structure WarmReport where
  warmed : Nat
  failures : List WarmFailure
deriving DecidableEq, Repr

namespace WarmReport

def isClean (report : WarmReport) : Bool := report.failures.isEmpty

/-- The report as a JSON object. -/
def wire (report : WarmReport) : String :=
  let failure (f : WarmFailure) : String :=
    "\x7b\"user\":\"" ++ f.user.text ++ "\",\"error\":" ++ Json.Text.encodeString f.error ++ "\x7d"
  s!"\x7b\"warmed\":{report.warmed},\"failures\":[" ++ ",".intercalate (report.failures.map failure) ++ "]\x7d"

end WarmReport

end FeedFanout
