import FeedFanout.Proofs.Hosts
import FeedFanout.Proofs.Validity

/-!
The verdict over a draft. Settings are made of a draft if it passes ten checks, each on its own, and hold what it says;
otherwise the first check that it fails is blamed (`Settings.verdict`).
-/
namespace FeedFanout.Settings

/-- The values of a draft, with defaults for what it leaves open. -/
def Draft.filled (d : Draft) (key : Key) : key.kind.Value := (d key).getD key.default

/-- Host and port of a draft as one text. -/
def Draft.candidate (d : Draft) : String := s!"{d.filled .host}:{(d.filled .port).val}"

/-- What is looked at before settings are made of a draft. -/
inductive Check
  | port
  | address
  | gracefulShutdown
  | level
  | maxConnections
  | cacheCapacity
  | policy
  | ioTimeout
  | channelCapacity
  | concurrency
deriving DecidableEq

namespace Check

/-- In the order in which they are made. -/
def all : List Check :=
  [.port, .address, .gracefulShutdown, .level, .maxConnections, .cacheCapacity, .policy, .ioTimeout, .channelCapacity,
    .concurrency]

theorem mem_all (check : Check) : check ∈ all := by cases check <;> decide

/-- What is named when the check fails. -/
def subject : Check → String
  | port => "server.port"
  | address => "server.addr"
  | gracefulShutdown => "server.graceful_shutdown_seconds"
  | level => "logging.level"
  | maxConnections => "database.max_connections"
  | cacheCapacity => "feed.cache_capacity"
  | policy => "feed.fanout_policy"
  | ioTimeout => "feed.io_timeout_ms"
  | channelCapacity => "notifier.channel_capacity"
  | concurrency => "warmer.concurrency"

def Passes (d : Draft) : Check → Prop
  | port => (d.filled .port).val ≠ 0
  | address => ∃ a, SocketAddress.Written d.candidate.toList a
  | gracefulShutdown => (d.filled .gracefulShutdown).val ≠ 0
  | level => ∃ verbosity, Verbosity.parse? (d.filled .level) = some verbosity
  | maxConnections => (d.filled .maxConnections).val ≠ 0
  | cacheCapacity => (d.filled .cacheCapacity).val ≠ 0
  | policy => Text.trim (d.filled .policy) = "fail_fast" ∨ Text.trim (d.filled .policy) = "best_effort"
  | ioTimeout => (d.filled .ioTimeout).val ≠ 0
  | channelCapacity => (d.filled .channelCapacity).val ≠ 0
  | concurrency => (d.filled .concurrency).val ≠ 0

/-- What is said when the check fails. -/
def reason (d : Draft) : Check → String
  | port => "port must be greater than zero"
  | address => s!"invalid address `{d.candidate}`: invalid socket address syntax"
  | level => s!"failed to parse: error parsing level filter: {Invalid.levels}"
  | policy => s!"expected `fail_fast` or `best_effort`, got `{Text.trim (d.filled .policy)}`"
  | gracefulShutdown | maxConnections | cacheCapacity | ioTimeout | channelCapacity | concurrency =>
    "must be greater than zero"

/-- The first check of a list that a draft fails. -/
inductive First (d : Draft) : List Check → Check → Prop
  | here {check : Check} {checks : List Check} (fails : ¬check.Passes d) : First d (check :: checks) check
  | later {check failing : Check} {checks : List Check} (passes : check.Passes d) (rest : First d checks failing) :
      First d (check :: checks) failing

theorem First.fails {d : Draft} {checks : List Check} {check : Check} (first : First d checks check) :
    ¬check.Passes d := by
  induction first with
  | here fails => exact fails
  | later _ _ ih => exact ih

/-- An error that a check gives. -/
def Gives (d : Draft) (check : Check) (e : Invalid) : Prop := e.subject = check.subject ∧ e.reason = check.reason d

theorem Gives.message {d : Draft} {check : Check} {e : Invalid} (gives : check.Gives d e) :
    e.message = s!"invalid configuration for `{check.subject}`: {check.reason d}" := by
  obtain ⟨subject, reason⟩ := gives
  unfold Invalid.message
  rw [subject, reason]

/-- A result that depends on whether the check passes. -/
structure Makes {α : Type} (d : Draft) (check : Check) (x : Except Invalid α) : Prop where
  passes : ∀ a, x = .ok a → check.Passes d
  gives : ∀ e, x = .error e → ¬check.Passes d ∧ check.Gives d e

/-- A result that depends on whether all of the checks pass, and otherwise on the first that fails. -/
structure Judges {α : Type} (d : Draft) (checks : List Check) (x : Except Invalid α) : Prop where
  passes : ∀ a, x = .ok a → ∀ check ∈ checks, check.Passes d
  blames : ∀ e, x = .error e → ∃ check, First d checks check ∧ check.Gives d e

theorem Judges.ok {α : Type} {d : Draft} (a : α) : Judges d [] (.ok a) := ⟨fun _ _ => nofun, nofun⟩

/-- One check is made, and then the others. -/
theorem Makes.judges {α β : Type} {d : Draft} {check : Check} {checks : List Check} {x : Except Invalid α}
    {f : α → Except Invalid β} (makes : Makes d check x) (rest : ∀ a, x = .ok a → Judges d checks (f a)) :
    Judges d (check :: checks) (x >>= f) := by
  cases x with
  | error e =>
    obtain ⟨fails, given⟩ := makes.gives e rfl
    refine ⟨nofun, ?_⟩
    rintro e ⟨⟩
    exact ⟨check, .here fails, given⟩
  | ok a =>
    have passes := makes.passes a rfl
    refine ⟨fun b made => List.forall_mem_cons.mpr ⟨passes, (rest a rfl).passes b made⟩, fun e refused => ?_⟩
    obtain ⟨failing, first, given⟩ := (rest a rfl).blames e refused
    exact ⟨failing, .later passes first, given⟩

/-! ### The checks one by one -/

variable {d : Draft}

theorem makes_positive {check : Check} {key : Key} {n : Nat} (passes : check.Passes d ↔ n ≠ 0)
    (gives : check.Gives d (.zero key)) : Makes d check (positive key n) := by
  unfold positive
  split
  · rename_i above
    exact ⟨fun _ _ => passes.mpr (Nat.ne_of_gt above), nofun⟩
  · rename_i none
    refine ⟨nofun, ?_⟩
    rintro e ⟨⟩
    exact ⟨fun passed => none (Nat.pos_of_ne_zero (passes.mp passed)), gives⟩

theorem judges_positive {α : Type} {check : Check} {checks : List Check} {key : Key} {n : Nat}
    {f : Positive → Except Invalid α} (passes : check.Passes d ↔ n ≠ 0) (gives : check.Gives d (.zero key))
    (rest : ∀ p, Judges d checks (f p)) : Judges d (check :: checks) (positive key n >>= f) :=
  (makes_positive passes gives).judges fun p _ => rest p

theorem makes_port : Makes d .port (checkPort (d.filled .port).val) := by
  unfold checkPort
  split
  · rename_i zero
    refine ⟨nofun, ?_⟩
    rintro e ⟨⟩
    exact ⟨fun passes => passes zero, by decide, rfl⟩
  · rename_i some
    exact ⟨fun _ _ => some, nofun⟩

theorem makes_address : Makes d .address (checkAddress (d.filled .host) (d.filled .port).val) := by
  have written := @SocketAddress.written_iff (d.filled .host) _ (d.filled .port).isLt
  refine ⟨fun a accepted => ⟨a, ?_⟩, fun e refused => ⟨?_, ?_⟩⟩
  · obtain ⟨ip, port⟩ := checkAddress_eq_ok_iff.mp accepted
    exact written.mpr ⟨ip, port.symm⟩
  · rintro ⟨a, address⟩
    obtain ⟨ip, port⟩ := written.mp address
    rw [checkAddress_eq_ok_iff.mpr ⟨ip, port.symm⟩] at refused
    cases refused
  · unfold checkAddress at refused
    split at refused
    · cases refused
    · cases refused
      exact ⟨rfl, rfl⟩

theorem makes_level : Makes d .level (checkVerbosity (some (d.filled .level))) := by
  refine ⟨fun verbosity accepted => ⟨verbosity, checkVerbosity_eq_ok_iff.mp accepted⟩, fun e refused => ⟨?_, ?_⟩⟩
  · rintro ⟨verbosity, parsed⟩
    rw [checkVerbosity_eq_ok_iff.mpr parsed] at refused
    cases refused
  · unfold checkVerbosity at refused
    split at refused
    · cases refused
    · split at refused
      · cases refused
      · cases refused
        exact ⟨rfl, rfl⟩

theorem makes_policy : Makes d .policy (checkPolicy (some (d.filled .policy))) := by
  unfold checkPolicy Policy.parse
  dsimp only
  split
  · rename_i strict
    exact ⟨fun _ _ => .inl strict, nofun⟩
  · rename_i unstrict
    split
    · rename_i lax
      exact ⟨fun _ _ => .inr lax, nofun⟩
    · rename_i unlax
      refine ⟨nofun, ?_⟩
      rintro e ⟨⟩
      exact ⟨fun passes => passes.elim unstrict unlax, rfl, rfl⟩

end Check

/-- The ten checks decide about a draft, in their order. -/
theorem judges_ofDraft (d : Draft) : Check.Judges d Check.all (ofDraft d) := by
  rw [← ofDraft_filled]
  unfold ofDraft
  simp only [Option.map_some, Option.getD_some]
  refine Check.makes_port.judges fun port accepted => ?_
  obtain rfl : (d.filled .port).val = port := by
    unfold checkPort at accepted
    split at accepted
    · cases accepted
    · exact Except.ok.inj accepted
  refine Check.makes_address.judges fun address _ => ?_
  refine Check.judges_positive Iff.rfl ⟨by decide, rfl⟩ fun graceful => ?_
  refine Check.makes_level.judges fun verbosity _ => ?_
  refine Check.judges_positive Iff.rfl ⟨by decide, rfl⟩ fun pool => ?_
  refine Check.judges_positive Iff.rfl ⟨by decide, rfl⟩ fun entries => ?_
  refine Check.makes_policy.judges fun policy _ => ?_
  refine Check.judges_positive Iff.rfl ⟨by decide, rfl⟩ fun limit => ?_
  refine Check.judges_positive Iff.rfl ⟨by decide, rfl⟩ fun messages => ?_
  refine Check.judges_positive Iff.rfl ⟨by decide, rfl⟩ fun users => ?_
  exact .ok _

/-! ### What settings hold -/

/-- The settings say what their draft says. -/
structure Reflects (d : Draft) (s : Settings) : Prop where
  address : SocketAddress.Written d.candidate.toList s.address
  host : Ip.IsHost s.address.ip (d.filled .host).toList
  port : s.address.port = (d.filled .port).val
  gracefulShutdown : s.gracefulShutdown = .ofSeconds (d.filled .gracefulShutdown).val
  level : Verbosity.parse? (d.filled .level) = some s.verbosity
  format : s.format = .json ↔ d .json = some true
  url : ∀ text, s.databaseUrl = some text ↔ text ≠ "" ∧ ∃ url, d .url = some url ∧ text = Text.trim url
  maxConnections : s.maxConnections.val = (d.filled .maxConnections).val
  cacheCapacity : s.cacheCapacity.val = (d.filled .cacheCapacity).val
  policy : Text.trim (d.filled .policy) = s.policy.name
  ioTimeout : s.ioTimeout = .ofMillis (d.filled .ioTimeout).val
  channelCapacity : s.channelCapacity.val = (d.filled .channelCapacity).val
  onStartup : s.warmOnStartup = true ↔ d .onStartup = some true
  interval : ∀ span, s.warmInterval = some span ↔ ∃ n, d .interval = some n ∧ n.val ≠ 0 ∧ span = .ofSeconds n.val
  concurrency : s.warmConcurrency.val = (d.filled .concurrency).val

theorem Key.positive?_eq_some_iff {n : Nat} {p : Positive} : positive? n = some p ↔ p.val = n := by
  obtain ⟨m, above⟩ := p
  unfold positive?
  constructor
  · intro given
    split at given
    · cases given
      rfl
    · cases given
  · rintro rfl
    exact dif_pos above

theorem trimmedUrl_eq_some_iff {url : Option String} {text : String} :
    trimmedUrl url = some text ↔ text ≠ "" ∧ ∃ given, url = some given ∧ text = Text.trim given := by
  unfold trimmedUrl
  cases url with
  | none => simp
  | some url =>
    simp only [Option.map_some, Option.some.injEq, exists_eq_left']
    split
    · rename_i empty
      rw [String.isEmpty_iff] at empty
      refine ⟨nofun, ?_⟩
      rintro ⟨full, rfl⟩
      exact absurd empty full
    · rename_i full
      rw [String.isEmpty_iff] at full
      rw [Option.some.injEq]
      constructor
      · rintro rfl
        exact ⟨full, rfl⟩
      · exact fun both => both.2.symm

theorem policy_of_parse {text : String} {policy : Policy} (parsed : (Policy.parse text).toOption = some policy) :
    Text.trim text = policy.name := by
  unfold Policy.parse at parsed
  dsimp only at parsed
  split at parsed
  · cases parsed
    assumption
  · split at parsed
    · cases parsed
      assumption
    · cases parsed

theorem reflects_of_ofDraft {d : Draft} {s : Settings} (made : ofDraft d = .ok s) : Reflects d s := by
  rw [← ofDraft_filled] at made
  have accepted := ofDraft_eq_ok_iff.mp made
  have host : Ip.parse? (d.filled .host) = some s.address.ip := accepted .host
  obtain ⟨port, number, same⟩ := Option.map_eq_some_iff.mp (accepted .port)
  have port : s.address.port = (d.filled .port).val := same.symm.trans (Key.positive?_eq_some_iff.mp number)
  obtain ⟨graceful, seconds, shutdown⟩ := Option.map_eq_some_iff.mp (accepted .gracefulShutdown)
  obtain ⟨limit, millis, timeout⟩ := Option.map_eq_some_iff.mp (accepted .ioTimeout)
  have format : (if d.filled .json then LogFormat.json else .compact) = s.format := Option.some.inj (accepted .json)
  have given : trimmedUrl (some (d.filled .url)) = s.databaseUrl := Option.some.inj (accepted .url)
  have url : trimmedUrl (d .url) = s.databaseUrl := (trimmedUrl_filled (d .url)).symm.trans given
  have startup : d.filled .onStartup = s.warmOnStartup := Option.some.inj (accepted .onStartup)
  have interval : (if 0 < (d.filled .interval).val then some (Span.ofSeconds (d.filled .interval).val) else none) =
    s.warmInterval := Option.some.inj (accepted .interval)
  refine {
    address := (SocketAddress.written_iff (d.filled .port).isLt).mpr ⟨host, port⟩
    host := Ip.parse?_eq_some_iff.mp host
    port
    gracefulShutdown := ?_
    level := accepted .level
    format := ?_
    url := ?_
    maxConnections := Key.positive?_eq_some_iff.mp (accepted .maxConnections)
    cacheCapacity := Key.positive?_eq_some_iff.mp (accepted .cacheCapacity)
    policy := policy_of_parse (accepted .policy)
    ioTimeout := ?_
    channelCapacity := Key.positive?_eq_some_iff.mp (accepted .channelCapacity)
    onStartup := ?_
    interval := ?_
    concurrency := Key.positive?_eq_some_iff.mp (accepted .concurrency) }
  · exact shutdown.symm.trans (congrArg Span.ofSeconds (Key.positive?_eq_some_iff.mp seconds))
  · rw [← format]
    cases flag : d .json with
    | none => simp [Draft.filled, flag, Key.default]
    | some json => cases json <;> simp [Draft.filled, flag]
  · intro text
    rw [← url, trimmedUrl_eq_some_iff]
  · exact timeout.symm.trans (congrArg Span.ofMillis (Key.positive?_eq_some_iff.mp millis))
  · rw [← startup]
    cases flag : d .onStartup <;> simp [Draft.filled, flag, Key.default]
  · intro span
    rw [← interval]
    cases count : d .interval with
    | none => simp [Draft.filled, count, Key.default]
    | some n => simp [Draft.filled, count, Nat.pos_iff_ne_zero, eq_comm]

/-! ### The verdict -/

/-- Settings are made of a draft that passes every check; of another the first check is named that fails. -/
structure Verdict (d : Draft) : Prop where
  accepts : (∃ s, ofDraft d = .ok s) ↔ ∀ check, Check.Passes d check
  reflects : ∀ s, ofDraft d = .ok s → Reflects d s
  blames : ∀ e, ofDraft d = .error e → ∃ check, Check.First d Check.all check ∧ check.Gives d e ∧
    e.message = s!"invalid configuration for `{check.subject}`: {check.reason d}"

theorem verdict (d : Draft) : Verdict d := by
  have judges := judges_ofDraft d
  refine ⟨⟨?_, ?_⟩, fun s => reflects_of_ofDraft, fun e refused => ?_⟩
  · rintro ⟨s, made⟩ check
    exact judges.passes s made check check.mem_all
  · intro passes
    cases made : ofDraft d with
    | ok s => exact ⟨s, rfl⟩
    | error e =>
      obtain ⟨check, first, -⟩ := judges.blames e made
      exact absurd (passes check) first.fails
  · obtain ⟨check, first, given⟩ := judges.blames e refused
    exact ⟨check, first, given, given.message⟩

end FeedFanout.Settings
