import FeedFanout.Settings.Load

/-!
Checked settings, key by key. What a draft leaves open is filled in with defaults (`Settings.ofDraft_filled`), and a
full draft yields settings if the value of each key is accepted on its own, whatever the others are
(`Settings.ofDraft_eq_ok_iff`).
-/
namespace FeedFanout.Settings
namespace Key

/-- The value of a key that nothing was said of. -/
def default : (key : Key) → key.kind.Value
  | .host => defaultHost
  | .port => ⟨defaultPort, by decide⟩
  | .gracefulShutdown => ⟨defaultGracefulShutdown, by decide⟩
  | .level => "info"
  | .json => false
  | .url => ""
  | .maxConnections => ⟨defaultMaxConnections, by decide⟩
  | .cacheCapacity => ⟨defaultCapacity, by decide⟩
  | .policy => "fail_fast"
  | .ioTimeout => ⟨defaultIoTimeout, by decide⟩
  | .channelCapacity => ⟨Live.Notifier.defaultCapacity, by decide⟩
  | .onStartup => false
  | .interval => ⟨0, by decide⟩
  | .concurrency => ⟨defaultConcurrency, by decide⟩

/-- What settings hold for a key. -/
@[reducible] def Checked : Key → Type
  | .host => Ip
  | .port => Nat
  | .gracefulShutdown | .ioTimeout => Span
  | .level => Verbosity
  | .json => LogFormat
  | .url => Option String
  | .maxConnections | .cacheCapacity | .channelCapacity | .concurrency => Positive
  | .policy => Policy
  | .onStartup => Bool
  | .interval => Option Span

/-- A number above zero, if it is one. -/
def positive? (n : Nat) : Option Positive := if h : 0 < n then some ⟨n, h⟩ else none

/-- The value of a key as settings hold it, if they can. -/
def check? : (key : Key) → key.kind.Value → Option key.Checked
  | .host, text => Ip.parse? text
  | .port, n => (positive? n.val).map Subtype.val
  | .gracefulShutdown, n => (positive? n.val).map fun n => .ofSeconds n.val
  | .level, text => Verbosity.parse? text
  | .json, flag => some (if flag then .json else .compact)
  | .url, text => some (trimmedUrl (some text))
  | .maxConnections, n => positive? n.val
  | .cacheCapacity, n => positive? n.val
  | .policy, text => (Policy.parse text).toOption
  | .ioTimeout, n => (positive? n.val).map fun n => .ofMillis n.val
  | .channelCapacity, n => positive? n.val
  | .onStartup, flag => some flag
  | .interval, n => some (if 0 < n.val then some (.ofSeconds n.val) else none)
  | .concurrency, n => positive? n.val

end Key

/-- What the settings hold for a key. -/
def checked (s : Settings) : (key : Key) → key.Checked
  | .host => s.address.ip
  | .port => s.address.port
  | .gracefulShutdown => s.gracefulShutdown
  | .level => s.verbosity
  | .json => s.format
  | .url => s.databaseUrl
  | .maxConnections => s.maxConnections
  | .cacheCapacity => s.cacheCapacity
  | .policy => s.policy
  | .ioTimeout => s.ioTimeout
  | .channelCapacity => s.channelCapacity
  | .onStartup => s.warmOnStartup
  | .interval => s.warmInterval
  | .concurrency => s.warmConcurrency

/-- Settings are what they hold for their keys. -/
theorem ext_checked {s t : Settings} (same : ∀ key, s.checked key = t.checked key) : s = t := by
  obtain ⟨⟨ip, port⟩, _⟩ := s
  obtain ⟨⟨ip', port'⟩, _⟩ := t
  cases same .host
  cases same .port
  cases same .gracefulShutdown
  cases same .level
  cases same .json
  cases same .url
  cases same .maxConnections
  cases same .cacheCapacity
  cases same .policy
  cases same .ioTimeout
  cases same .channelCapacity
  cases same .onStartup
  cases same .interval
  cases same .concurrency
  rfl

/-! ### Defaults -/

theorem checkVerbosity_filled (text : Option String) :
    checkVerbosity (some (text.getD (Key.default .level))) = checkVerbosity text := by
  cases text with
  | some text => rfl
  | none =>
    have parsed : Verbosity.parse? "info" = some (.downTo .info) := by decide +kernel
    simp only [checkVerbosity, Option.getD_none, Key.default, parsed]

theorem checkPolicy_filled (text : Option String) :
    checkPolicy (some (text.getD (Key.default .policy))) = checkPolicy text := by
  cases text with
  | some text => rfl
  | none =>
    have parsed : Policy.parse "fail_fast" = .ok .failFast := rfl
    simp only [checkPolicy, Option.getD_none, Key.default, parsed]
    rfl

theorem trimmedUrl_filled (text : Option String) :
    trimmedUrl (some (text.getD (Key.default .url))) = trimmedUrl text := by
  cases text with
  | some text => rfl
  | none => decide +kernel

theorem getD_filled {α β : Type} (value : Option α) (missing : α) (f : α → β) (other : β) :
    ((some (value.getD missing)).map f).getD other = (value.map f).getD (f missing) := by
  cases value <;> rfl

/-- Defaults may be filled in before settings are made. -/
theorem ofDraft_filled (draft : Draft) : ofDraft (fun key => some ((draft key).getD key.default)) = ofDraft draft := by
  unfold ofDraft
  simp only [getD_filled, checkVerbosity_filled, checkPolicy_filled, trimmedUrl_filled, Option.getD_some]
  rfl

/-! ### Checks -/

theorem bind_eq_ok_iff {ε α β : Type} {x : Except ε α} {f : α → Except ε β} {b : β} :
    (x >>= f) = .ok b ↔ ∃ a, x = .ok a ∧ f a = .ok b := by
  cases x with
  | error e => exact ⟨nofun, nofun⟩
  | ok a => exact ⟨fun same => ⟨a, rfl, same⟩, fun ⟨_, same, last⟩ => by cases same; exact last⟩

theorem positive_eq_ok_iff {key : Key} {n : Nat} {p : Positive} :
    positive key n = .ok p ↔ Key.positive? n = some p := by
  unfold positive Key.positive?
  split <;> simp

theorem checkPort_eq_ok_iff {n port : Nat} :
    checkPort n = .ok port ↔ (Key.positive? n).map Subtype.val = some port := by
  unfold checkPort Key.positive?
  split
  · simp_all
  · rw [dif_pos (Nat.pos_of_ne_zero ‹_›)]
    simp

theorem checkAddress_eq_ok_iff {host : String} {port : Nat} {a : SocketAddress} :
    checkAddress host port = .ok a ↔ Ip.parse? host = some a.ip ∧ port = a.port := by
  unfold checkAddress
  cases Ip.parse? host with
  | none => exact ⟨nofun, nofun⟩
  | some ip =>
    obtain ⟨ip', port'⟩ := a
    simp

theorem checkVerbosity_eq_ok_iff {text : String} {v : Verbosity} :
    checkVerbosity (some text) = .ok v ↔ Verbosity.parse? text = some v := by
  rw [checkVerbosity]
  cases Verbosity.parse? text with
  | none => exact ⟨nofun, nofun⟩
  | some verbosity => simp

theorem checkPolicy_eq_ok_iff {text : String} {p : Policy} :
    checkPolicy (some text) = .ok p ↔ (Policy.parse text).toOption = some p := by
  rw [checkPolicy]
  cases Policy.parse text with
  | error reason => exact ⟨nofun, nofun⟩
  | ok policy => constructor <;> (rintro ⟨⟩; rfl)

/-- Settings are made where the value of each key is accepted, and hold what it is accepted as. -/
theorem ofDraft_eq_ok_iff {full : (key : Key) → key.kind.Value} {s : Settings} :
    ofDraft (fun key => some (full key)) = .ok s ↔ ∀ key, key.check? (full key) = some (s.checked key) := by
  unfold ofDraft
  simp only [bind_eq_ok_iff, positive_eq_ok_iff, checkPort_eq_ok_iff, checkAddress_eq_ok_iff, checkVerbosity_eq_ok_iff,
    checkPolicy_eq_ok_iff, Option.map_some, Option.getD_some]
  constructor
  · rintro ⟨port, accepted, address, ⟨host, rfl⟩, graceful, shutdown, verbosity, level, connections, pool, cache,
      entries, policy, mode, timeout, limit, channel, messages, concurrency, users, same⟩
    cases same
    intro key
    cases key with
    | host => exact host
    | port => exact accepted
    | gracefulShutdown => exact congrArg (Option.map _) shutdown
    | level => exact level
    | url => simp only [Key.check?, checked]
    | json | onStartup | interval => rfl
    | maxConnections => exact pool
    | cacheCapacity => exact entries
    | policy => exact mode
    | ioTimeout => exact congrArg (Option.map _) limit
    | channelCapacity => exact messages
    | concurrency => exact users
  · intro accepted
    obtain ⟨graceful, shutdown, span⟩ := Option.map_eq_some_iff.mp (accepted .gracefulShutdown)
    obtain ⟨timeout, limit, length⟩ := Option.map_eq_some_iff.mp (accepted .ioTimeout)
    refine ⟨_, accepted .port, s.address, ⟨accepted .host, rfl⟩, graceful, shutdown, _, accepted .level, _,
      accepted .maxConnections, _, accepted .cacheCapacity, _, accepted .policy, timeout, limit, _,
      accepted .channelCapacity, _, accepted .concurrency, ?_⟩
    refine congrArg Except.ok (ext_checked ?_)
    intro key
    cases key
    all_goals dsimp only [checked]
    case gracefulShutdown => exact span
    case ioTimeout => exact length
    case json => exact Option.some.inj (accepted .json)
    case url => exact Option.some.inj (accepted .url)
    case onStartup => exact Option.some.inj (accepted .onStartup)
    case interval => exact Option.some.inj (accepted .interval)

end FeedFanout.Settings
