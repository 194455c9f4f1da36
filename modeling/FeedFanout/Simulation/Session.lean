import FeedFanout.Http.Router
import FeedFanout.Simulation.Job

/-!
Sessions: a program under test, driven step by step. A step acts on the collaborators directly, calls the service, sends
a request, or changes the circumstances.
-/
namespace FeedFanout.Simulation

structure Session where
  setup : Setup
  state : State
  periodic : List Periodic
  /-- Streams held by viewers, by name. -/
  viewers : Table String Live.Stream
  /-- Event streams held by clients, by name. -/
  clients : Table String Http.EventStream

/-- One step of a session. -/
inductive Step
  | friend (a b : UserId)
  | user (user : UserId)
  | friendsOf (user : UserId)
  | users
  | append (post : Post)
  | query (user : UserId) (authors : List UserId) (window : Window)
  | storeLength
  | exists (user : UserId)
  | prepend (user : UserId) (entry : FeedEntry)
  | trim (user : UserId) (cap : Nat)
  | push (user : UserId) (entry : FeedEntry) (cap : Nat)
  | read (user : UserId) (offset : Nat) (limit : Option Bound)
  | rebuild (user : UserId) (entries : List FeedEntry) (cap : Nat)
  | cacheLength
  | feedLength (user : UserId)
  | create (by_ : UserId) (post : Post)
  | fanout (post : Post) (friends : List UserId)
  | feed (user : UserId) (limit offset : Option Int)
  | getFeed (user : UserId) (window : Window)
  | settings
  | publish (user : UserId) (post : Post)
  | subscribe (user : UserId) (name : String)
  | unsubscribe (name : String)
  | receive (name : String) (count : Nat)
  | topics
  | close
  | warm
  | warmUser (user : UserId)
  | startPeriodic (millis : Nat)
  | stopPeriodic
  | sleep (millis : Nat)
  | fault (fault : Fault)
  | clearFaults
  | metrics
  | migrate
  | request (request : Http.Request) (name : Option String)
  | readEvents (name : String) (count : Nat)
  | dropEvents (name : String)

/-- What a step answers. -/
inductive Result
  | done
  | never
  | flag (value : Bool)
  | users (users : List UserId)
  | posts (posts : List Post)
  | count (n : Nat)
  | entries (entries : List FeedEntry)
  | created (post : PostId)
  | fanout (outcome : Fanout.Outcome)
  | page (page : FeedPage)
  | settings (service : Service)
  | noStream
  | receipts (receipts : List (Live.Receipt String))
  | topics (count : Nat) (isClosed : Bool)
  | warmed (report : WarmReport)
  | metrics (metrics : Metrics)
  | noDatabase
  | reply (reply : Http.Reply)
  | frames (frames : List Http.Frame)
  | storeError (error : StoreError)
  | cacheError (error : CacheError)
  | notifyError (error : Live.NotifyError)
  | windowError (error : WindowError)
  | feedError (error : FeedError)
  | warmError (error : WarmError)
  | databaseError (error : DatabaseError)

namespace Session

def world (s : Session) : World := s.state.world

def withWorld (s : Session) (world : World) : Session := { s with state := { s.state with world } }

def withNotifier (s : Session) (notifier : Live.Notifier) : Session :=
  s.withWorld { s.world with notifier }

/-- Carries out a plan and makes a result of its answer. -/
def plan {α : Type} (s : Session) (plan : Plan α) (result : α → Session → Result × Session) :
    Result × Session :=
  let (answer, periodic, state) := carryOut s.setup s.periodic plan s.state
  let s := { s with periodic, state }
  match answer with
  | some value => result value s
  | none => (.never, s)

def task {α : Type} (s : Session) (task : Task α) (result : α → Result) : Result × Session :=
  s.plan (.ofTask task) fun value s => (result value, s)

/-- The result of a reply that may be an error. -/
private def either {ε α : Type} (error : ε → Result) (ok : α → Result) : Except ε α → Result
  | .ok value => ok value
  | .error e => error e

/-- A call that no fault can hit. -/
def direct (s : Session) (call : Call) (result : call.Reply → Result) : Result × Session :=
  let (reply, state) := s.state.perform s.setup call
  (result reply, { s with state })

/-- A viewer leaves. -/
def leave (s : Session) (stream : Option Live.Stream) : Session :=
  match stream with
  | some stream => s.withNotifier (s.world.notifier.unsubscribe stream)
  | none => s

/-- Up to `count` receipts, ending with the first that has no message and no loss. -/
private def receiveMany (notifier : Live.Notifier) :
    Nat → Live.Stream → List (Live.Receipt String) × Live.Stream
  | 0, stream => ([], stream)
  | count + 1, stream =>
    match notifier.receive stream with
    | (.empty, stream) => ([.empty], stream)
    | (.closed, stream) => ([.closed], stream)
    | (receipt, stream) =>
      let (receipts, stream) := receiveMany notifier count stream
      (receipt :: receipts, stream)

/-- Up to `count` frames, ending with the first that is pending or the end. -/
def readMany : Nat → Http.EventStream → State → List Http.Frame × Http.EventStream × State
  | 0, es, s => ([], es, s)
  | count + 1, es, s =>
    let (frame, es, missed) := es.read s.world.notifier s.clock
    let s := match missed with
      | some missed => s.remark (.viewerLagged es.viewer missed)
      | none => s
    match frame with
    | .data text =>
      let (frames, es, s) := readMany count es s
      (.data text :: frames, es, s)
    | frame => ([frame], es, s)

def subscribe (s : Session) (user : UserId) (name : String) : Result × Session :=
  match s.world.notifier.subscribe? user with
  | none => (.never, s)
  | some (stream, notifier) =>
    let older := s.viewers.get? name
    let s := { s.withNotifier notifier with viewers := s.viewers.set name stream }
    (.done, s.leave older)

/-- Keeps an event stream that was opened. One without a body is over at once. -/
def openEvents (s : Session) (reply : Http.Reply) (name : Option String) : Session :=
  match reply.body with
  | .events viewer stream =>
    let s := if reply.headOnly then s.leave (some stream) else s
    let stream := if reply.headOnly then .finished else stream
    let name := name.getD ""
    let older := s.clients.get? name
    let s := { s with clients := s.clients.set name ⟨viewer, stream, s.state.clock⟩ }
    s.leave (older.map (·.stream))
  | _ => s

/-- Carries out one step. -/
def step (s : Session) : Step → Result × Session
  | .friend a b => (.done, s.withWorld { s.world with graph := s.world.graph.addFriendship a b })
  | .user user => (.done, s.withWorld { s.world with graph := s.world.graph.addUser user })
  | .friendsOf user => s.direct (.friendsOf user) (either .storeError .users)
  | .users => s.direct .users (either .storeError .users)
  | .append post => s.direct (.append post) (either .storeError fun _ => .done)
  | .query user authors window => s.direct (.query user authors window) (either .storeError .posts)
  | .storeLength => (.count s.world.log.length, s)
  | .exists user => s.task (Task.call (.exists user)) (either .cacheError .flag)
  | .prepend user entry => s.task (Task.call (.prepend user entry)) (either .cacheError fun _ => .done)
  | .trim user cap => s.task (Task.call (.trim user cap)) (either .cacheError fun _ => .done)
  | .push user entry cap => s.task (Task.call (.push user entry cap)) (either .cacheError fun _ => .done)
  | .read user offset limit => s.task (Task.call (.read user offset limit)) (either .cacheError .entries)
  | .rebuild user entries cap => s.task (Task.call (.rebuild user entries cap)) (either .cacheError fun _ => .done)
  | .cacheLength => (.count s.world.cache.feeds.size, s)
  | .feedLength user => (.count (s.world.cache.feed user).length, s)
  | .create by_ post => s.task (s.setup.service.createPost by_ post) (either .feedError .created)
  | .fanout post friends => s.task (s.setup.service.fanout post friends) (either .feedError .fanout)
  | .feed user limit offset =>
    match Window.ofRaw limit offset with
    | .error e => (.windowError e, s)
    | .ok window => s.task (s.setup.service.feedPage user window) (either .feedError .page)
  | .getFeed user window => s.task (s.setup.service.getFeed user window) (either .feedError .posts)
  | .settings => (.settings s.setup.service, s)
  | .publish user post => s.direct (.publish user post) (either .notifyError fun _ => .done)
  | .subscribe user name => s.subscribe user name
  | .unsubscribe name =>
    let older := s.viewers.get? name
    (.flag older.isSome, { s.leave older with viewers := s.viewers.erase name })
  | .receive name count =>
    match s.viewers.get? name with
    | none => (.noStream, s)
    | some stream =>
      let (receipts, stream) := receiveMany s.world.notifier count stream
      (.receipts receipts, { s with viewers := s.viewers.set name stream })
  | .topics => (.topics s.world.notifier.topicCount s.world.notifier.isClosed, s)
  | .close => (.done, s.withNotifier s.world.notifier.close)
  | .warm => s.plan s.setup.warmer.warmAll fun result s => (either .warmError .warmed result, s)
  | .warmUser user => s.task (s.setup.warmer.warmUser user) (either .warmError fun _ => .done)
  | .startPeriodic millis =>
    let (periodic, state) := Periodic.start millis s.periodic s.state
    (.done, { s with periodic, state })
  | .stopPeriodic => (.done, { s with periodic := Periodic.stop s.periodic })
  | .sleep millis =>
    let (_, periodic, state) := drive s.setup patience s.periodic (.sleep (s.state.clock + millis) ()) s.state
    (.done, { s with periodic, state })
  | .fault fault => (.done, { s with state := { s.state with faults := s.state.faults ++ [fault] } })
  | .clearFaults => (.done, { s with state := { s.state with faults := [] } })
  | .metrics => (.metrics s.state.told.metrics, s)
  | .migrate =>
    match s.setup.storage with
    | .memory => (.noDatabase, s)
    | .memoryBesidePool true => (.done, s)
    | .memoryBesidePool false | .closedPool => (.databaseError (.migration DatabaseError.poolClosed.message), s)
  | .request request name =>
    s.plan (Http.serve s.setup.service s.setup.warmer request) fun reply s => (.reply reply, s.openEvents reply name)
  | .readEvents name count =>
    match s.clients.get? name with
    | none => (.noStream, s)
    | some es =>
      let (frames, es, state) := readMany count es s.state
      (.frames frames, { s with state, clients := s.clients.set name es })
  | .dropEvents name =>
    let older := s.clients.get? name
    (.flag older.isSome, { s.leave (older.map (·.stream)) with clients := s.clients.erase name })

/-- What one step answered and told, in order. -/
structure Record where
  result : Result
  events : List Event
  remarks : List Remark

/-- Carries out a step and takes note of what was told meanwhile. -/
def record (s : Session) (step : Step) : Record × Session :=
  let (result, s) := s.step step
  let told := s.state.told
  (⟨result, told.events.reverse, told.remarks.reverse⟩,
    { s with state := { s.state with told := { told with events := [], remarks := [] } } })

def run (s : Session) : List Step → List Record
  | [] => []
  | step :: steps =>
    let (record, s) := s.record step
    record :: s.run steps

end Session

end FeedFanout.Simulation
