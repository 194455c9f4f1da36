import FeedFanout.Id
import FeedFanout.Json.Value
import FeedFanout.Text.Utf8

/-!
Posts and their wire form: a JSON object with the members `id`, `user_id` and `text` in this order and no blank space.
`Post.encode` always gives the wire form (`Post.encode_eq`), and `Post.decode` reads any JSON spelling of a post, also
an array of the three values.
-/
namespace FeedFanout

structure Post where
  id : PostId
  author : UserId
  text : String
deriving DecidableEq, Repr

namespace Post

/-- One member of the wire form. -/
def memberChars (name : String) (value : List Char) : List Char := Json.Text.encode name.toList ++ ':' :: value

/-- The wire form. -/
def wireChars (post : Post) : List Char :=
  '{' :: memberChars "id" (Json.Text.encode post.id.chars) ++
    ',' :: memberChars "user_id" (Json.Text.encode post.author.chars) ++
    ',' :: memberChars "text" (Json.Text.encode post.text.toList) ++ ['}']

def wire (post : Post) : String := String.ofList post.wireChars

/-- Why a post could not be written, or a document is not a post. -/
abbrev CodecError := Json.Error Id.Error

def CodecError.message (e : CodecError) : String :=
  Json.Error.message (fun cause => s!"UUID parsing failed: {cause.message}") e

/-- The post as an object. -/
def value (post : Post) : Json.Value :=
  .object <| .cons (.text "id") (.text post.id.text) <| .cons (.text "user_id") (.text post.author.text) <|
    .cons (.text "text") (.text post.text) .nil

def encode (post : Post) : Except CodecError String := post.value.document

/-- Whatever the post, there is nothing in it that could not be written. -/
@[simp] theorem encode_eq (post : Post) : post.encode = .ok post.wire := by
  have written : post.value.write = .ok post.wireChars := by
    simp [value, Json.Value.write, Json.Members.write, Json.Value.writeName, wireChars, memberChars, Id.text,
      List.intercalate, bind, Except.bind, pure, Except.pure]
  rw [encode, Json.Value.document, written]
  rfl

/-- What is known of a post while it is being read. -/
structure Draft where
  id : Option PostId := none
  author : Option UserId := none
  text : Option String := none

/-- Reads an identifier. -/
def readId (role : Role) (input : Json.Input) : Except (Json.Halt Id.Error) (Id role × Json.Input) :=
  match Json.readString "a formatted UUID string" input with
  | .error e => .error e
  | .ok (cs, rest) =>
    match Id.parse cs with
    | .ok id => .ok (id, rest)
    | .error cause => .error ⟨.custom cause, Json.Input.size rest, .whole⟩

def format : Json.Format Id.Error Draft where
  title := "struct Post"
  blank := {}
  fields := [
    { name := "id", has := (·.id.isSome)
      read := fun draft input => (readId .post input).map fun (id, rest) => ({ draft with id := some id }, rest) },
    { name := "user_id", has := (·.author.isSome)
      read := fun draft input =>
        (readId .user input).map fun (author, rest) => ({ draft with author := some author }, rest) },
    { name := "text", has := (·.text.isSome)
      read := fun draft input =>
        (Json.readString "a string" input).map fun (cs, rest) =>
          ({ draft with text := some (String.ofList cs) }, rest) }]

def Draft.post? (draft : Draft) : Option Post := do
  return { id := ← draft.id, author := ← draft.author, text := ← draft.text }

/-- Reads a post from a document. -/
def decode (bytes : ByteArray) : Except CodecError Post :=
  match format.read (Text.Utf8.read bytes) with
  | .error failure => .error failure.error
  | .ok draft =>
    match draft.post? with
    | some post => .ok post
    -- Not reached, since a draft that was read is complete.
    | none => .error ⟨.flaw .objectEnds, none⟩

end Post

end FeedFanout
