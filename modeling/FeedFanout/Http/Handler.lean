import FeedFanout.Http.ContentType
import FeedFanout.Http.Message
import FeedFanout.Service.Create
import FeedFanout.Service.Read
import FeedFanout.Warm.Warmer

/-!
What each route does with a request: the identity of the viewer first, then the query or the body, then the service.
-/
namespace FeedFanout.Http

/-- The user a request acts for, or the reply that refuses it. -/
def viewer (r : Request) : Except Reply UserId :=
  let source := "infra::http::viewer"
  match r.header? Request.viewerHeader with
  | none => .error (.failed 401 "Missing user identity" source [s!"request has no `{Request.viewerHeader}` header"])
  | some raw =>
    match Request.readable? raw with
    | none => .error (.failed 400 "Invalid user identity" source ["failed to convert header to a str"])
    | some text =>
      match UserId.parse text with
      | .ok user => .ok user
      | .error e => .error (.failed 400 "Invalid user identity" source [e.message])

/-- A handler behind the check of the viewer. -/
def withViewer (r : Request) (handle : UserId → Task Reply) : Task Reply :=
  match viewer r with
  | .error reply => return reply
  | .ok user => handle user

/-! ### Reading a feed -/

/-- Posts as a JSON array. -/
def postsBody (posts : List Post) : String := "[" ++ ",".intercalate (posts.map Post.wire) ++ "]"

def getFeed (s : Service) (r : Request) : Task Reply :=
  withViewer r fun user =>
    match FeedQuery.parse (r.target.query.getD "") with
    | .error e => return .refused 400 e.message
    | .ok query =>
      match Window.ofRaw query.limit query.offset with
      | .error e => return .failed 400 "Invalid pagination" "infra::http::get_feed" [e.message]
      | .ok window => do
        match ← s.feedPage user window with
        | .error e => return .ofFeedError e
        | .ok page => return { status := 200, body := .json (postsBody page.posts), source := some page.source }

/-! ### Creating a post -/

/-- The most bytes that a body may have. -/
def largestBody : Nat := 2097152

/-- The text of the post that is asked for. -/
abbrev Draft := Option String

def requestFormat : Json.Format Empty Draft where
  title := "struct CreatePostRequest"
  blank := none
  fields := [{
    name := "text", has := Option.isSome
    read := fun _ input =>
      (Json.readString "a string" input).map fun (cs, rest) => (some (String.ofList cs), rest) }]

/-- Where a fault lies, in front of its text. -/
def placeText : Json.Place → String
  | .whole => ""
  | .field name => s!"{name}: "
  | .element index => s!"[{index}]: "

def refuseBody (failure : Json.Failure Empty) : Reply :=
  let text := placeText failure.place ++ failure.error.message nofun
  if failure.error.fault.isGrammar then .refused 400 s!"Failed to parse the request body as JSON: {text}"
  else .refused 422 s!"Failed to deserialize the JSON body into the target type: {text}"

/-- The text of the post that a request asks for, or the reply that refuses it. -/
def requestedText (r : Request) : Except Reply String :=
  let isJson := ((r.header? "content-type").bind Request.readable?).bind MediaType.parse? |>.any (·.isJson)
  if !isJson then .error (.refused 415 "Expected request with `Content-Type: application/json`")
  else if largestBody < r.body.size then
    .error (.refused 413 "Failed to buffer the request body: length limit exceeded")
  else match requestFormat.read (Text.Utf8.read r.body) with
    | .error failure => .error (refuseBody failure)
    | .ok draft => .ok (draft.getD "")

def createdBody (post : PostId) : String := "\x7b\"post_id\":\"" ++ post.text ++ "\"\x7d"

def createPost (s : Service) (r : Request) : Task Reply :=
  withViewer r fun user =>
    match requestedText r with
    | .error reply => return reply
    | .ok text =>
      if Text.onlyBlank text then
        return .failed 400 "Post text must not be empty" "infra::http::create_post" ["empty post text"]
      else do
        let id ← Task.call .mint
        match ← s.createPost user ⟨id, user, text⟩ with
        | .error e => return .ofFeedError e
        | .ok post => return { status := 200, body := .json (createdBody post) }

/-! ### The other routes -/

def watch (r : Request) : Task Reply :=
  withViewer r fun user => do
    let stream ← Task.call (.subscribe user)
    Task.remark (.viewerConnected user)
    return { status := 200, body := .events user (stream.getD .finished) }

def warm (w : Warmer) : Plan Reply :=
  w.warmAll.andThen fun
    | .ok report => return { status := 200, body := .json report.wire }
    | .error e => return .failed 503 "Cache warm could not start" "infra::http::warm_cache" e.chain

def health : Task Reply := do
  match ← Task.call .ping with
  | .ok () => return { status := 204 }
  | .error e => return { status := 503, report := some ⟨"infra::http::db_health", e.chain⟩ }

end FeedFanout.Http
