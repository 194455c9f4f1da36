import FeedFanout.Decimal.Integer
import FeedFanout.Text.Form

/-!
Request targets, and the query strings that ask for a feed: with the fields `limit` and `offset`, at most one of each.
-/
namespace FeedFanout.Http

/-- Path and query of a request target. -/
structure Target where
  path : String
  query : Option String
deriving DecidableEq, Repr

namespace Target

/-- What stands behind the scheme and `://` of an absolute target. -/
def absolute? (cs : List Char) : Option (List Char) :=
  match cs.dropWhile fun c => c.isAlphanum || c = '+' || c = '-' || c = '.' with
  | ':' :: '/' :: '/' :: rest => some rest
  | _ => none

/-- Path and query up to a fragment. The path is never empty. -/
def ofPath (cs : List Char) : Target :=
  let cs := cs.takeWhile (· ≠ '#')
  let path := cs.takeWhile (· ≠ '?')
  let query := match cs.dropWhile (· ≠ '?') with
    | '?' :: query => some (String.ofList query)
    | _ => none
  ⟨if path.isEmpty then "/" else String.ofList path, query⟩

/-- Reads a path with a query, an absolute target, an asterisk alone, or else an authority, which has no path. -/
def parse (text : String) : Target :=
  match text.toList with
  | ['*'] => ⟨"*", none⟩
  | '/' :: cs => ofPath ('/' :: cs)
  | cs =>
    match absolute? cs with
    | some rest => ofPath (rest.dropWhile fun c => c ≠ '/' && c ≠ '?' && c ≠ '#')
    | none => ⟨"", none⟩

end Target

/-- Why a query string does not ask for a feed. -/
inductive QueryError
  | integer (field : String) (error : Decimal.IntegerError)
  | duplicate (field : String)
deriving DecidableEq, Repr

def QueryError.message : QueryError → String
  | .integer field error => s!"Failed to deserialize query string: {field}: {error.message}"
  | .duplicate field => s!"Failed to deserialize query string: duplicate field `{field}`"

/-- Limit and offset as they were given. -/
structure FeedQuery where
  limit : Option Int := none
  offset : Option Int := none
deriving DecidableEq, Repr

namespace FeedQuery

private def field (name : String) (old : Option Int) (value : List Char) : Except QueryError (Option Int) :=
  if old.isSome then .error (.duplicate name)
  else match Decimal.parseInt Decimal.largestInt64 value with
    | .ok n => .ok (some n)
    | .error e => .error (.integer name e)

/-- Pairs with other names are passed over. -/
def ofPairs : FeedQuery → List (List Char × List Char) → Except QueryError FeedQuery
  | q, [] => .ok q
  | q, (name, value) :: rest =>
    if name = "limit".toList then
      match field "limit" q.limit value with
      | .ok limit => ofPairs { q with limit } rest
      | .error e => .error e
    else if name = "offset".toList then
      match field "offset" q.offset value with
      | .ok offset => ofPairs { q with offset } rest
      | .error e => .error e
    else ofPairs q rest

def parse (query : String) : Except QueryError FeedQuery := ofPairs {} (Text.Form.pairs query.toList)

end FeedQuery

end FeedFanout.Http
