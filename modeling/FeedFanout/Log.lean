import FeedFanout.Notice

/-!
Log records: a level, a message and named fields.
-/
namespace FeedFanout

inductive Level
  | error
  | warn
  | info
  | debug
  | trace
deriving DecidableEq, Repr

def Level.name : Level → String
  | .error => "ERROR"
  | .warn => "WARN"
  | .info => "INFO"
  | .debug => "DEBUG"
  | .trace => "TRACE"

inductive LogValue
  | text (value : String)
  | number (value : Nat)
  | texts (values : List String)
deriving DecidableEq, Repr

structure LogRecord where
  level : Level
  message : String
  fields : List (String × LogValue)
deriving DecidableEq, Repr

namespace LogRecord

/-- The field that names the part of the program a record comes from. -/
def targetField : String := "target"

private def entry (target : String) (level : Level) (message : String) (fields : List (String × LogValue)) :
    LogRecord :=
  ⟨level, message, (targetField, .text target) :: fields⟩

/-- Where failed requests are logged. -/
def responseTarget : String := "homefeed::http::response"

def ofFailedRequest (r : FailedRequest) : LogRecord :=
  let (level, message) := if 500 ≤ r.status then (Level.error, "request failed") else (.warn, "client request error")
  entry responseTarget level message [
    ("status", .number r.status), ("method", .text r.method), ("path", .text r.path), ("query", .text r.query),
    ("source", .text r.source), ("detail", .text (r.chain.head?.getD "no diagnostic available")),
    ("chain", .texts r.chain), ("viewer", .text r.viewer)]

def ofRemark : Remark → LogRecord
  | .fanoutComplete post delivered =>
    entry "application::feed::create_post" .debug "fanout complete"
      [("post_id", .text post.text), ("delivered", .number delivered)]
  | .fanoutIncomplete post delivered failed skipped =>
    entry "application::feed::create_post" .warn "fanout incomplete"
      [("post_id", .text post.text), ("delivered", .number delivered), ("failed", .number failed),
        ("skipped", .number skipped)]
  | .friendMissed post failure =>
    entry "application::feed::fanout" .warn "fanout to friend failed"
      [("post_id", .text post.text), ("friend", .text failure.friend.text), ("step", .text failure.step.name),
        ("error", .text failure.cause.message)]
  | .cacheUnavailable user reason =>
    entry "application::feed::feed_page" .warn "feed cache unavailable, reading from post store"
      [("user", .text user.text), ("reason", .text reason)]
  | .postStored post => entry "homefeed::feed" .debug "post stored" [("post_id", .text post.text)]
  | .fanoutFinished post delivered skipped =>
    entry "homefeed::feed" .debug "fanout finished"
      [("post_id", .text post.text), ("delivered", .number delivered), ("skipped", .number skipped)]
  | .feedServed user source entries =>
    entry "homefeed::feed" .debug "feed served"
      [("user", .text user.text), ("source", .text source.name), ("entries", .number entries)]
  | .noViewer user post =>
    ⟨.trace, "no live viewer, notification dropped", [("user", .text user.text), ("post_id", .text post.text)]⟩
  | .topicPruned user post =>
    ⟨.trace, "topic pruned, notification dropped", [("user", .text user.text), ("post_id", .text post.text)]⟩
  | .warmStarted => entry "homefeed::cache_warmer" .info "warming feed cache" []
  | .userNotWarmed user error =>
    entry "homefeed::cache_warmer" .warn "failed to warm user feed"
      [("user", .text user.text), ("error", .text error.message)]
  | .warmFinished report =>
    entry "homefeed::cache_warmer" .info "feed cache warm finished"
      [("warmed", .number report.warmed), ("failed", .number report.failures.length)]
  | .periodicWarmFailed error =>
    entry "homefeed::cache_warmer" .warn "periodic feed cache warm failed" [("error", .text error.message)]
  | .viewerConnected user => entry "homefeed::http::posted" .debug "viewer connected" [("user", .text user.text)]
  | .viewerLagged user missed =>
    entry "homefeed::http::posted" .warn "live viewer lagged, notifications dropped"
      [("user", .text user.text), ("missed", .number missed)]
  | .requestFailed request => ofFailedRequest request

end LogRecord

end FeedFanout
