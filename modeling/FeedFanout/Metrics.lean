import FeedFanout.Notice
import FeedFanout.Table

/-!
Metrics. Events for the observer and the remarks of warm runs are counted; histograms count their samples.
-/
namespace FeedFanout

inductive Metric
  | postsStored
  | fanoutDelivered
  | fanoutFailed (step : Fanout.Step)
  | fanoutSkipped
  | fanoutMillis
  | feedReads (source : Source)
  | cacheDegraded
  | warmMillis
  | warmFailed
deriving DecidableEq, Repr

namespace Metric

/-- What a family of metrics is, for those who read them. -/
structure Description where
  name : String
  /-- Samples of a size, rather than a count. -/
  isHistogram : Bool
  text : String

def name : Metric → String
  | .postsStored => "homefeed_posts_stored_total"
  | .fanoutDelivered => "homefeed_fanout_delivered_total"
  | .fanoutFailed _ => "homefeed_fanout_failed_total"
  | .fanoutSkipped => "homefeed_fanout_skipped_total"
  | .fanoutMillis => "homefeed_fanout_ms"
  | .feedReads _ => "homefeed_feed_reads_total"
  | .cacheDegraded => "homefeed_feed_cache_degraded_total"
  | .warmMillis => "homefeed_cache_warm_ms"
  | .warmFailed => "homefeed_cache_warm_failed_total"

/-- The label that tells the members of a family apart. -/
def label : Metric → Option (String × String)
  | .fanoutFailed step => some ("step", step.name)
  | .feedReads source => some ("source", source.name)
  | _ => none

/-- Name and label. -/
def key (m : Metric) : String :=
  match m.label with
  | some (label, value) => s!"{m.name}|{label}={value}"
  | none => m.name

def isHistogram : Metric → Bool
  | .fanoutMillis | .warmMillis => true
  | _ => false

def summary : Metric → String
  | .postsStored => "Total number of posts written to the post store."
  | .fanoutDelivered => "Total number of friends that received a post in their feed and live stream."
  | .fanoutFailed _ => "Total number of friends a fanout failed for, labelled by failing step."
  | .fanoutSkipped => "Total number of friends skipped after an earlier fanout failure."
  | .fanoutMillis => "Fanout latency per post in milliseconds."
  | .feedReads _ => "Total number of feed reads, labelled by serving source."
  | .cacheDegraded => "Total number of feed reads answered by the post store because the cache failed."
  | .warmMillis => "Feed cache warm run latency in milliseconds."
  | .warmFailed => "Total number of users whose feed could not be rebuilt by the warmer."

def describe (m : Metric) : Description := ⟨m.name, m.isHistogram, m.summary⟩

/-- One description for each family. -/
def descriptions : List Description :=
  [postsStored, fanoutDelivered, fanoutFailed .cacheWrite, fanoutSkipped, fanoutMillis, feedReads .cache, cacheDegraded,
    warmMillis, warmFailed].map describe

end Metric

structure Metrics where
  counts : Table Metric Nat

namespace Metrics

def empty : Metrics := ⟨.empty⟩

def count (metrics : Metrics) (metric : Metric) : Nat := (metrics.counts.get? metric).getD 0

def add (metrics : Metrics) (metric : Metric) (n : Nat) : Metrics :=
  ⟨metrics.counts.set metric (metrics.count metric + n)⟩

/-- Counts an event. -/
def hear (metrics : Metrics) : Event → Metrics
  | .stored _ => metrics.add .postsStored 1
  | .delivered .. => metrics.add .fanoutDelivered 1
  | .failed _ _ step => metrics.add (.fanoutFailed step) 1
  | .finished _ _ skipped =>
    (if skipped = 0 then metrics else metrics.add .fanoutSkipped skipped).add .fanoutMillis 1
  | .served _ source _ => metrics.add (.feedReads source) 1
  | .degraded _ => metrics.add .cacheDegraded 1

/-- Counts what a warm run tells. -/
def remark (metrics : Metrics) : Remark → Metrics
  | .userNotWarmed .. => metrics.add .warmFailed 1
  | .warmFinished _ => metrics.add .warmMillis 1
  | _ => metrics

end Metrics

/-- What is logged about an event where events are counted. -/
def Event.remark? : Event → Option Remark
  | .stored post => some (.postStored post)
  | .finished post reached skipped => some (.fanoutFinished post reached skipped)
  | .served user source entries => some (.feedServed user source entries)
  | _ => none

end FeedFanout
