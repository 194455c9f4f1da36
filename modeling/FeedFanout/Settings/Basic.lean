import FeedFanout.Service.Basic
import FeedFanout.Settings.Key
import FeedFanout.Settings.Verbosity
import FeedFanout.SocketAddress
import FeedFanout.Warm.Warmer

/-!
Settings that the program can run with. `ofDraft` fills in what a draft leaves open and checks the rest in a fixed
order, so that the first wrong key is the one reported.
-/
namespace FeedFanout

/-- A number above zero. -/
abbrev Positive := { n : Nat // 0 < n }

inductive LogFormat
  | compact
  | json
deriving DecidableEq, Repr

def LogFormat.name : LogFormat → String
  | .compact => "compact"
  | .json => "json"

structure Settings where
  address : SocketAddress
  gracefulShutdown : Span
  verbosity : Settings.Verbosity
  format : LogFormat
  /-- Without a URL, posts and friendships live in memory. -/
  databaseUrl : Option String
  maxConnections : Positive
  cacheCapacity : Positive
  policy : Policy
  ioTimeout : Span
  channelCapacity : Positive
  warmOnStartup : Bool
  /-- Time between two warm runs, if there are to be more than one. -/
  warmInterval : Option Span
  warmConcurrency : Positive
deriving DecidableEq, Repr

namespace Settings

/-- Why a draft is refused. -/
inductive Invalid
  | zeroPort
  /-- Host and port together are no address. -/
  | address (candidate : String)
  | zero (key : Key)
  | verbosity
  | policy (reason : String)
deriving DecidableEq, Repr

namespace Invalid

/-- The setting that is reported. -/
def subject : Invalid → String
  | .zeroPort => Key.port.path
  | .address _ => "server.addr"
  | .zero key => key.path
  | .verbosity => Key.level.path
  | .policy _ => Key.policy.path

def levels : String :=
  "expected one of \"off\", \"error\", \"warn\", \"info\", \"debug\", \"trace\", or a number 0-5"

def reason : Invalid → String
  | .zeroPort => "port must be greater than zero"
  | .address candidate => s!"invalid address `{candidate}`: invalid socket address syntax"
  | .zero _ => "must be greater than zero"
  | .verbosity => s!"failed to parse: error parsing level filter: {levels}"
  | .policy reason => reason

def message (e : Invalid) : String := s!"invalid configuration for `{e.subject}`: {e.reason}"

end Invalid

/-! ### Defaults -/

def defaultHost : String := "127.0.0.1"
def defaultPort : Nat := 8080
def defaultGracefulShutdown : Nat := 30
def defaultMaxConnections : Nat := 8
def defaultIoTimeout : Nat := 5000
def defaultConcurrency : Nat := 8

/-! ### Checks -/

def positive (key : Key) (n : Nat) : Except Invalid Positive := if h : 0 < n then .ok ⟨n, h⟩ else .error (.zero key)

def checkPort (port : Nat) : Except Invalid Nat := if port = 0 then .error .zeroPort else .ok port

def checkAddress (host : String) (port : Nat) : Except Invalid SocketAddress :=
  match Ip.parse? host with
  | some ip => .ok ⟨ip, port⟩
  | none => .error (.address s!"{host}:{port}")

def checkVerbosity : Option String → Except Invalid Verbosity
  | none => .ok (.downTo .info)
  | some text =>
    match Verbosity.parse? text with
    | some verbosity => .ok verbosity
    | none => .error .verbosity

def checkPolicy : Option String → Except Invalid Policy
  | none => .ok .failFast
  | some text => (Policy.parse text).mapError .policy

/-- A URL without the blanks around it; none if nothing is left. -/
def trimmedUrl (url : Option String) : Option String :=
  match url.map Text.trim with
  | some url => if url.isEmpty then none else some url
  | none => none

/-- The settings of a draft, or the first of its keys that cannot be used. -/
def ofDraft (draft : Draft) : Except Invalid Settings := do
  let count (key : Key) (value : Option Nat) (missing : Nat) : Except Invalid Positive :=
    positive key (value.getD missing)
  let port ← checkPort (((draft .port).map Fin.val).getD defaultPort)
  let address ← checkAddress ((draft .host).getD defaultHost) port
  let graceful ← count .gracefulShutdown ((draft .gracefulShutdown).map Fin.val) defaultGracefulShutdown
  let verbosity ← checkVerbosity (draft .level)
  let maxConnections ← count .maxConnections ((draft .maxConnections).map Fin.val) defaultMaxConnections
  let cacheCapacity ← count .cacheCapacity ((draft .cacheCapacity).map Fin.val) defaultCapacity
  let policy ← checkPolicy (draft .policy)
  let ioTimeout ← count .ioTimeout ((draft .ioTimeout).map Fin.val) defaultIoTimeout
  let channelCapacity ← count .channelCapacity ((draft .channelCapacity).map Fin.val) Live.Notifier.defaultCapacity
  let warmConcurrency ← count .concurrency ((draft .concurrency).map Fin.val) defaultConcurrency
  let interval := ((draft .interval).map Fin.val).getD 0
  return {
    address, gracefulShutdown := .ofSeconds graceful, verbosity
    format := if (draft .json).getD false then .json else .compact
    databaseUrl := trimmedUrl (draft .url), maxConnections, cacheCapacity, policy
    ioTimeout := .ofMillis ioTimeout, channelCapacity
    warmOnStartup := (draft .onStartup).getD false
    warmInterval := if 0 < interval then some (.ofSeconds interval) else none
    warmConcurrency }

/-! ### Parts of the program -/

/-- All settings, one to a line. -/
def lines (s : Settings) : List String := [
  s!"address = {s.address.text}",
  s!"graceful shutdown = {s.gracefulShutdown.text}",
  s!"log level = {s.verbosity.name}",
  s!"log format = {s.format.name}",
  "database = " ++ s.databaseUrl.getD "memory",
  s!"connections = {s.maxConnections.val}",
  s!"cache capacity = {s.cacheCapacity.val}",
  s!"fanout policy = {s.policy.name}",
  s!"call limit = {s.ioTimeout.text}",
  s!"channel capacity = {s.channelCapacity.val}",
  s!"warm on startup = {s.warmOnStartup}",
  "warm interval = " ++ (s.warmInterval.map Span.text).getD "none",
  s!"warm concurrency = {s.warmConcurrency.val}"]

def service (s : Settings) : Service := { capacity := s.cacheCapacity, policy := s.policy, limit := s.ioTimeout }

def notifier (s : Settings) : Live.Notifier := .make s.channelCapacity

def warmer (s : Settings) : Warmer := { capacity := s.cacheCapacity, concurrency := s.warmConcurrency }

end Settings

end FeedFanout
