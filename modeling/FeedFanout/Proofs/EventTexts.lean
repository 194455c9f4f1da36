import FeedFanout.Http.Stream
import Mathlib.Data.Bool.AllAny
import Mathlib.Data.List.Basic

/-!
Event streams as they are read. `events` is the reader of a client: a line ends in a line feed, a carriage return or
both, a field has its name before the first colon, and an empty line ends an event. The frame of visible data is read
as one event with these data, whatever comes behind it (`events_eventFrame`), so a stream is read frame by frame
(`events_frame`).
-/
namespace FeedFanout.Http

/-! ### The reader of a client -/

/-- An event as a client gets it. -/
structure ServerEvent where
  name : String
  data : String
deriving DecidableEq, Repr

/-- The lines of a text, the first of which has begun. What is not ended is no line. -/
def linesFrom (line : List Char) : List Char → List (List Char)
  | [] => []
  | '\r' :: '\n' :: rest => line :: linesFrom [] rest
  | '\r' :: rest => line :: linesFrom [] rest
  | '\n' :: rest => line :: linesFrom [] rest
  | c :: rest => linesFrom (line ++ [c]) rest

def lines (text : List Char) : List (List Char) := linesFrom [] text

/-- The name of a field and its value, without the space that may stand behind the colon. -/
def field (line : List Char) : String × String :=
  let value := (line.dropWhile (· ≠ ':')).drop 1
  (String.ofList (line.takeWhile (· ≠ ':')), String.ofList (if value.head? = some ' ' then value.drop 1 else value))

/-- What is known of an event before its end. -/
structure Block where
  name : String := ""
  data : List String := []

/-- One line more. Unknown fields and comments tell nothing. -/
def Block.take (b : Block) (line : List Char) : Block :=
  match field line with
  | ("event", name) => { b with name }
  | ("data", data) => { b with data := b.data ++ [data] }
  | _ => b

/-- There is no event without data. -/
def Block.event? (b : Block) : Option ServerEvent :=
  if b.data = [] then none else some ⟨if b.name = "" then "message" else b.name, "\n".intercalate b.data⟩

def eventsFrom (b : Block) : List (List Char) → List ServerEvent
  | [] => []
  | [] :: rest => b.event?.toList ++ eventsFrom {} rest
  | line :: rest => eventsFrom (b.take line) rest

/-- The events in a text. -/
def events (text : List Char) : List ServerEvent := eventsFrom {} (lines text)

example : events "data: a\r\ndata:b\r\r: c\n\nevent: d\n\n".toList = [⟨"message", "a\nb"⟩] := by decide

/-! ### Lines -/

/-- A text without control characters. -/
def Visible (text : List Char) : Prop := ∀ c ∈ text, 32 ≤ c.toNat

instance : DecidablePred Visible := fun text => List.decidableBAll (fun c : Char => 32 ≤ c.toNat) text

theorem Visible.unbroken {text : List Char} (visible : Visible text) : ∀ c ∈ text, c ≠ '\n' ∧ c ≠ '\r' := by
  intro c member
  have shown := visible c member
  constructor <;> rintro rfl <;> exact absurd shown (by decide)

theorem linesFrom_append {part : List Char} (visible : Visible part) (line rest : List Char) :
    linesFrom line (part ++ '\n' :: rest) = (line ++ part) :: lines rest := by
  induction part generalizing line with
  | nil => simp [linesFrom, lines]
  | cons c part ih =>
    obtain ⟨feed, carriage⟩ := visible.unbroken c List.mem_cons_self
    have goesOn : linesFrom line (c :: (part ++ '\n' :: rest)) = linesFrom (line ++ [c]) (part ++ '\n' :: rest) := by
      rw [linesFrom]
      all_goals simp_all
    rw [List.cons_append, goesOn, ih fun d member => visible d (List.mem_cons_of_mem c member)]
    simp

theorem lines_append {line : List Char} (visible : Visible line) (rest : List Char) :
    lines (line ++ '\n' :: rest) = line :: lines rest := linesFrom_append visible [] rest

theorem split_visible {text : List Char} (visible : Visible text) : Text.split (· = '\n') text = [text] := by
  induction text with
  | nil => rfl
  | cons c text ih =>
    obtain ⟨feed, -⟩ := visible.unbroken c List.mem_cons_self
    rw [Text.split, if_neg (by simpa using feed), ih fun d member => visible d (List.mem_cons_of_mem c member)]

/-! ### Frames -/

/-- Visible data make one line. -/
theorem eventFrame_visible {data : String} (visible : Visible data.toList) :
    eventFrame data = "event: post\ndata: " ++ data ++ "\n\n" := by
  rw [String.ext_iff]
  simp [eventFrame, dataLines, split_visible visible]

theorem toList_eventFrame {data : String} (visible : Visible data.toList) (rest : List Char) :
    (eventFrame data).toList ++ rest =
      "event: post".toList ++ '\n' :: ("data: ".toList ++ data.toList ++ '\n' :: ([] ++ '\n' :: rest)) := by
  simp [eventFrame_visible visible]

theorem visible_dataLine {data : String} (visible : Visible data.toList) : Visible ("data: ".toList ++ data.toList) :=
  List.forall_mem_append.mpr ⟨show Visible "data: ".toList by decide, visible⟩

/-- The lines of a frame: the name of the event, its data, and an empty line. -/
theorem lines_eventFrame {data : String} (visible : Visible data.toList) (rest : List Char) :
    lines ((eventFrame data).toList ++ rest) =
      "event: post".toList :: ("data: ".toList ++ data.toList) :: [] :: lines rest := by
  rw [toList_eventFrame visible, lines_append (show Visible "event: post".toList by decide),
    lines_append (visible_dataLine visible), lines_append (show Visible [] from nofun)]

/-- A name ends at the first colon. -/
theorem field_append {name : List Char} (unbroken : ∀ c ∈ name, c ≠ ':') (value : List Char) :
    field (name ++ ':' :: ' ' :: value) = (String.ofList name, String.ofList value) := by
  have named : ∀ c ∈ name, decide (c ≠ ':') = true := fun c member => decide_eq_true (unbroken c member)
  rw [field, List.takeWhile_append_of_pos named, List.dropWhile_append_of_pos named]
  simp

theorem eventsFrom_cons (b : Block) {line : List Char} (more : line ≠ []) (rest : List (List Char)) :
    eventsFrom b (line :: rest) = eventsFrom (b.take line) rest := by
  rw [eventsFrom]
  exact more

/-- A frame is one event. -/
theorem events_eventFrame {data : String} (visible : Visible data.toList) (rest : List Char) :
    events ((eventFrame data).toList ++ rest) = ⟨"post", data⟩ :: events rest := by
  have named (b : Block) : b.take "event: post".toList = { b with name := "post" } := rfl
  have filled (b : Block) : b.take ("data: ".toList ++ data.toList) = { b with data := b.data ++ [data] } := by
    have split : "data: ".toList ++ data.toList = ['d', 'a', 't', 'a'] ++ ':' :: ' ' :: data.toList := rfl
    rw [Block.take, split, field_append (List.all_iff_forall_prop.mp (by decide)), String.ofList_toList]
    rfl
  rw [events, lines_eventFrame visible, eventsFrom_cons _ (by decide), named, eventsFrom_cons _ (by simp), filled,
    eventsFrom]
  simp [Block.event?, events]

/-- What keeps a stream alive is no event. -/
theorem events_keepAlive (rest : List Char) : events (keepAliveFrame.toList ++ rest) = events rest := by
  have split : keepAliveFrame.toList ++ rest = [':'] ++ '\n' :: ([] ++ '\n' :: rest) := rfl
  rw [events, split, lines_append (show Visible [':'] by decide), lines_append (show Visible [] from nofun)]
  rfl

end FeedFanout.Http
