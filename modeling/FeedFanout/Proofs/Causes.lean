import FeedFanout.Http.Router

/-!
Errors and what lies under them. An error has a text, and at most one error lies directly under it (`AnyError.under?`),
so that those found by going down from it form a list (`AnyError.Chain`). The chains that errors are reported with are
the texts of all that are found.
-/
namespace FeedFanout

/-- An error of any kind that is reported. -/
inductive AnyError
  | feed (error : FeedError)
  | store (error : StoreError)
  | cache (error : CacheError)
  | notify (error : Live.NotifyError)
  | fanout (report : Fanout.Partial)
  | failure (failure : Fanout.Failure)
  | cause (cause : Fanout.Cause)
  | document (error : Post.CodecError)
  | warm (error : WarmError)
  | database (error : DatabaseError)
  /-- What a migration of the database failed with. -/
  | migration (message : String)
  | identity (error : DomainError)
  | window (error : WindowError)
  /-- Nothing is known of it but its text and the texts under it. -/
  | foreign (text : String) (below : List String)

namespace AnyError

def text : AnyError → String
  | feed error => error.message
  | store error => error.message
  | cache error => error.message
  | notify error => error.message
  | fanout report => report.message
  | failure f => f.message
  | cause c => c.message
  | document error => Post.CodecError.message error
  | warm error => error.message
  | database error => error.message
  | migration message => (DatabaseError.migration message).message
  | identity error => error.message
  | window error => error.message
  | foreign text _ => text

def underCache? : CacheError → Option AnyError
  | .unavailable _ => none
  | .codec fault => some (document fault)

def underNotify? : Live.NotifyError → Option AnyError
  | .transport _ => none
  | .codec fault => some (document fault)

/-- The error directly under an error, if there is one. A cause stands for the error that it holds. -/
def under? : AnyError → Option AnyError
  | feed (.storageUnavailable error) | feed (.friendGraphUnavailable _ error) => some (store error)
  | feed (.partialFanout report) => some (fanout report)
  | feed (.corruptEntry error) => some (cache error)
  | feed (.duplicatePost _) | feed (.timeout ..) | feed (.validation _) => none
  | cache error => underCache? error
  | notify error => underNotify? error
  | fanout report => report.failures.head?.map failure
  | failure f => some (cause f.cause)
  | cause (.cache error) => underCache? error
  | cause (.notify error) => underNotify? error
  | cause (.timeout _) => none
  | warm (.directory error) | warm (.friends error) | warm (.posts error) => some (store error)
  | warm (.cache error) => some (cache error)
  | database (.server message _) | database (.io message) | database (.configuration message)
  | database (.decode message) => some (foreign message [])
  | database (.migration message) => some (migration message)
  | migration message => some (foreign message [])
  | database (.other _ (text :: below)) | foreign _ (text :: below) => some (foreign text below)
  | store _ | document _ | database _ | identity _ | window _ | foreign _ [] => none

/-- The texts of an error and of all that is found under it, outermost first. -/
inductive Chain : AnyError → List String → Prop
  | last {e : AnyError} (bottom : e.under? = none) : Chain e [e.text]
  | under {e next : AnyError} {texts : List String} (source : e.under? = some next) (rest : Chain next texts) :
      Chain e (e.text :: texts)

theorem Chain.unique {e : AnyError} {texts texts' : List String} (chain : e.Chain texts) (chain' : e.Chain texts') :
    texts = texts' := by
  induction chain generalizing texts' with
  | last bottom =>
    cases chain' with
    | last bottom' => rfl
    | under source rest =>
      rw [bottom] at source
      cases source
  | under source rest ih =>
    cases chain' with
    | last bottom =>
      rw [bottom] at source
      cases source
    | under source' rest' =>
      cases Option.some.inj (source.symm.trans source')
      rw [ih rest']

/-! ### Chains that are reported -/

theorem chain_store (e : StoreError) : (store e).Chain e.chain := .last rfl

theorem chain_cache (e : CacheError) : (cache e).Chain e.chain := by
  cases e with
  | unavailable message => exact .last rfl
  | codec fault => exact .under rfl (.last rfl)

theorem chain_cause (c : Fanout.Cause) : (cause c).Chain c.chain := by
  cases c with
  | cache e =>
    cases e with
    | unavailable message => exact .last rfl
    | codec fault => exact .under rfl (.last rfl)
  | notify e =>
    cases e with
    | transport message => exact .last rfl
    | codec fault => exact .under rfl (.last rfl)
  | timeout limit => exact .last rfl

theorem chain_failure (f : Fanout.Failure) : (failure f).Chain f.chain := .under rfl (chain_cause f.cause)

theorem chain_fanout (report : Fanout.Partial) : (fanout report).Chain report.chain := by
  obtain ⟨post, delivered, failures, skipped⟩ := report
  cases failures with
  | nil => exact .last rfl
  | cons first later => exact .under rfl (chain_failure first)

theorem chain_feed (e : FeedError) : (feed e).Chain e.chain := by
  cases e with
  | storageUnavailable e | friendGraphUnavailable user e => exact .under rfl (chain_store e)
  | partialFanout report => exact .under rfl (chain_fanout report)
  | corruptEntry e => exact .under rfl (chain_cache e)
  | duplicatePost | timeout | validation => exact .last rfl

theorem chain_warm (e : WarmError) : (warm e).Chain e.chain := by
  cases e with
  | directory e | friends e | posts e => exact .under rfl (chain_store e)
  | cache e => exact .under rfl (chain_cache e)

theorem chain_foreign (text : String) (below : List String) : (foreign text below).Chain (text :: below) := by
  induction below generalizing text with
  | nil => exact .last rfl
  | cons next below ih => exact .under rfl (ih next)

theorem chain_database (e : DatabaseError) : (database e).Chain e.chain := by
  cases e with
  | server | io | configuration | decode => exact .under rfl (.last rfl)
  | migration message => exact .under rfl (.under rfl (.last rfl))
  | other message sources =>
    cases sources with
    | nil => exact .last rfl
    | cons text below => exact .under rfl (chain_foreign text below)
  | _ => exact .last rfl

end AnyError
end FeedFanout
