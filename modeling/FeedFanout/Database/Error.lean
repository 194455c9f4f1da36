import FeedFanout.PostLog

/-!
Errors of a database connection and what they mean to a store.
-/
namespace FeedFanout

inductive DatabaseError
  /-- The server refused a statement. -/
  | server (message : String) (constraint : Option String)
  | io (message : String)
  | configuration (message : String)
  | protocol (message : String)
  | decode (message : String)
  | columnNotFound (name : String)
  | typeNotFound (name : String)
  | rowNotFound
  | poolTimedOut
  | poolClosed
  | workerCrashed
  /-- While the tables were being brought up to date. -/
  | migration (message : String)
  /-- Of any other kind, over errors with these texts. -/
  | other (message : String) (sources : List String)
deriving DecidableEq, Repr

namespace DatabaseError

def message : DatabaseError → String
  | .server message _ => s!"error returned from database: {message}"
  | .io message => s!"error communicating with database: {message}"
  | .configuration message => s!"error with configuration: {message}"
  | .protocol message => s!"encountered unexpected or invalid data: {message}"
  | .decode message => s!"error occurred while decoding: {message}"
  | .columnNotFound name => s!"no column found for name: {name}"
  | .typeNotFound name => s!"type named {name} not found"
  | .rowNotFound => "no rows returned by a query that expected to return at least one row"
  | .poolTimedOut => "pool timed out while waiting for an open connection"
  | .poolClosed => "attempted to acquire a connection on a closed pool"
  | .workerCrashed => "attempted to communicate with a crashed background worker"
  | .migration message => s!"while executing migrations: {message}"
  | .other message _ => message

/-- The texts under an error: what it says of another, which a migration says again. -/
def sources : DatabaseError → List String
  | .server message _ | .io message | .configuration message | .decode message => [message]
  | e@(.migration message) => [e.message, message]
  | .other _ sources => sources
  | .protocol _ | .columnNotFound _ | .typeNotFound _ | .rowNotFound | .poolTimedOut | .poolClosed | .workerCrashed => []

def chain (e : DatabaseError) : List String := e.message :: e.sources

def contains (text part : String) : Bool := (text.splitOn part).length > 1

/-- What a database error means to a store of posts or friendships. -/
def toStore (e : DatabaseError) : StoreError :=
  match e with
  | .server message constraint =>
    if contains message "duplicate key" then .duplicate (constraint.getD "unknown")
    else if contains message "violates foreign key constraint" || contains message "invalid input syntax" then
      .invalidInput message
    else if contains message "violates" then .integrity message
    else if contains message "canceling statement due to user request" then .timeout
    else .persistence e.message
  | .poolTimedOut => .timeout
  | _ => .persistence e.message

end DatabaseError

end FeedFanout
