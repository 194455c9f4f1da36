import FeedFanout.Call

/-!
Faults: rules that make calls fail, take time, or never return. A rule names a kind of call and perhaps a user; of the
rules for a call the first that is not used up applies.
-/
namespace FeedFanout.Simulation

/-- A kind of call that faults can hit. -/
inductive Site
  | append
  | query
  | friends
  | users
  | exists
  | read
  | push
  | prepend
  | trim
  | rebuild
  | publish
  | ping
deriving DecidableEq, Repr

/-- Where a call can be hit, and the user whom it concerns. There is no database to ask after without a pool of
connections. -/
def site? (hasPool : Bool) : Call → Option (Site × UserId)
  | .append post => some (.append, post.author)
  | .query user _ _ => some (.query, user)
  | .friendsOf user => some (.friends, user)
  | .users => some (.users, default)
  | .exists user => some (.exists, user)
  | .read user _ _ => some (.read, user)
  | .push user _ _ => some (.push, user)
  | .prepend user _ => some (.prepend, user)
  | .trim user _ => some (.trim, user)
  | .rebuild user _ _ => some (.rebuild, user)
  | .publish user _ => some (.publish, user)
  | .ping => if hasPool then some (.ping, default) else none
  | .subscribe _ | .mint => none

/-- An error that a call is made to answer. -/
inductive Trouble
  | store (error : StoreError)
  | cache (error : CacheError)
  | notify (error : Live.NotifyError)
  | database (error : DatabaseError)

/-- The reply with which a call fails, if it can fail in this way. -/
def Trouble.reply? (trouble : Trouble) (call : Call) : Option call.Reply :=
  match call, trouble with
  | .append _, .store e => some (.error e)
  | .query .., .store e => some (.error e)
  | .friendsOf _, .store e => some (.error e)
  | .users, .store e => some (.error e)
  | .exists _, .cache e => some (.error e)
  | .read .., .cache e => some (.error e)
  | .push .., .cache e => some (.error e)
  | .prepend .., .cache e => some (.error e)
  | .trim .., .cache e => some (.error e)
  | .rebuild .., .cache e => some (.error e)
  | .publish .., .notify e => some (.error e)
  | .ping, .database e => some (.error e)
  | _, _ => none

private def isOk {ε α : Type} : Except ε α → Bool
  | .ok _ => true
  | .error _ => false

/-- The call did what it was asked for. -/
def succeeded : (call : Call) → call.Reply → Bool
  | .append _, r => isOk r
  | .query .., r => isOk r
  | .friendsOf _, r => isOk r
  | .users, r => isOk r
  | .exists _, r => isOk r
  | .read .., r => isOk r
  | .push .., r => isOk r
  | .prepend .., r => isOk r
  | .trim .., r => isOk r
  | .rebuild .., r => isOk r
  | .publish .., r => isOk r
  | .subscribe _, r => r.isSome
  | .mint, _ => true
  | .ping, r => isOk r

/-- What happens to a call. -/
inductive Act
  | error (trouble : Trouble)
  /-- Nothing is done and no reply comes. -/
  | hang
  /-- The call is done, but a good reply does not come. -/
  | hangAfter
  /-- The call is done some milliseconds later. -/
  | delay (millis : Nat)

structure Fault where
  site : Site
  /-- Any user if absent. -/
  user : Option UserId
  act : Act
  /-- How often the rule still applies; for ever if absent. -/
  times : Option Nat

/-- The rule applies to such a call. -/
def Fault.hits (fault : Fault) (site : Site) (user : UserId) : Bool :=
  fault.site = site && (fault.user.all (· = user)) && fault.times ≠ some 0

/-- What happens to a call, and the rules left after it. -/
def takeFault (site : Site) (user : UserId) : List Fault → Option Act × List Fault
  | [] => (none, [])
  | fault :: faults =>
    if fault.hits site user then (some fault.act, { fault with times := fault.times.map (· - 1) } :: faults)
    else
      let (act, faults) := takeFault site user faults
      (act, fault :: faults)

end FeedFanout.Simulation
