import FeedFanout.Entry
import FeedFanout.Proofs.Characters
import FeedFanout.Proofs.Records

/-!
Documents that hold a post. An object is read as a post exactly if it has each of the three members once, among any
others (`Post.value_object_iff`), and an array exactly if it has the three values in order (`Post.value_array_iff`). It
does not matter how texts and identifiers are spelled, in which order the members come and where there is blank space;
behind the value there may be nothing else (`FeedEntry.documents`).
-/
namespace FeedFanout.Post
open Json (IsValue IsBlank IsText IsObject IsArray Member Element Field Spells)

/-! ### Fields -/

/-- The value is a text that spells the identifier. -/
def IsId {role : Role} (id : Id role) (value : List Char) : Prop := ∃ cs, IsText cs value ∧ Id.Spelling id cs

/-- The value is a text that spells the string. -/
def IsString (s : String) (value : List Char) : Prop := IsText s.toList value

/-- What the fields of a post take from values. -/
inductive Takes (field : Field Id.Error Draft) (value : List Char) (draft : Draft) : Draft → Prop
  | id {id : PostId} (name : field.name = "id") (isId : IsId id value) :
      Takes field value draft { draft with id := some id }
  | author {author : UserId} (name : field.name = "user_id") (isId : IsId author value) :
      Takes field value draft { draft with author := some author }
  | text {text : String} (name : field.name = "text") (isString : IsString text value) :
      Takes field value draft { draft with text := some text }

theorem readId_eq_ok_iff {role : Role} {value blank : List Char} (isValue : IsValue value) (isBlank : IsBlank blank)
    (id : Id role) (rest rest' : Json.Input) :
    readId role (blank.map some ++ (value.map some ++ rest)) = .ok (id, rest') ↔ IsId id value ∧ rest' = rest := by
  have reads (cs : List Char) (rest' : Json.Input) : Json.readString "a formatted UUID string"
      (blank.map some ++ (value.map some ++ rest)) = (.ok (cs, rest') : Except (Json.Halt Id.Error) _) ↔
        IsText cs value ∧ rest' = rest := Json.readString_eq_ok_iff isValue isBlank
  rw [readId]
  cases given : (Json.readString "a formatted UUID string" (blank.map some ++ (value.map some ++ rest)) :
      Except (Json.Halt Id.Error) _) with
  | error e =>
    constructor
    · intro read
      cases read
    · rintro ⟨⟨cs, isText, -⟩, -⟩
      cases given.symm.trans ((reads cs rest).mpr ⟨isText, rfl⟩)
  | ok answer =>
    obtain ⟨cs, behind⟩ := answer
    obtain ⟨isText, rfl⟩ := (reads cs behind).mp given
    have same : IsId id value ↔ Id.parse cs = .ok id := by
      rw [Id.parse_eq_ok_iff]
      constructor
      · rintro ⟨other, isText', spelling⟩
        rwa [isText.unique isText']
      · exact fun spelling => ⟨cs, isText, spelling⟩
    rw [same]
    dsimp only
    cases (Id.parse cs : Except Id.Error (Id role)) <;> simp [eq_comm]

theorem map_eq_ok_iff {ε α β : Type} (f : α → β) (r : Except ε α) (b : β) :
    r.map f = .ok b ↔ ∃ a, r = .ok a ∧ f a = b := by
  cases r <;> simp [Except.map]

theorem regular : format.Regular Takes := by
  refine ⟨fun {field value blank} known isValue isBlank draft draft' rest rest' => ?_⟩
  simp only [format, List.mem_cons, List.not_mem_nil, or_false] at known
  rcases known with rfl | rfl | rfl <;> simp only [map_eq_ok_iff, Prod.exists, Prod.mk.injEq]
  · simp only [readId_eq_ok_iff isValue isBlank]
    constructor
    · rintro ⟨id, _, ⟨isId, rfl⟩, rfl, rfl⟩
      exact ⟨.id rfl isId, rfl⟩
    · rintro ⟨takes, rfl⟩
      cases takes with
      | id _ isId => exact ⟨_, _, ⟨isId, rfl⟩, rfl, rfl⟩
      | author name | text name => simp at name
  · simp only [readId_eq_ok_iff isValue isBlank]
    constructor
    · rintro ⟨author, _, ⟨isId, rfl⟩, rfl, rfl⟩
      exact ⟨.author rfl isId, rfl⟩
    · rintro ⟨takes, rfl⟩
      cases takes with
      | author _ isId => exact ⟨_, _, ⟨isId, rfl⟩, rfl, rfl⟩
      | id name | text name => simp at name
  · simp only [Json.readString_eq_ok_iff isValue isBlank]
    constructor
    · rintro ⟨cs, _, ⟨isText, rfl⟩, rfl, rfl⟩
      exact ⟨.text rfl (by rwa [IsString, String.toList_ofList]), rfl⟩
    · rintro ⟨takes, rfl⟩
      cases takes with
      | text _ isString => exact ⟨_, _, ⟨isString, rfl⟩, by rw [String.ofList_toList], rfl⟩
      | id name | author name => simp at name

/-! ### Members -/

/-- What a field holds before and after some members, of which at most one can have its name. -/
inductive Held {α : Type} (denotes : α → List Char → Prop) (name : List Char) : Option α → List Member → Option α → Prop
  | nil {held : Option α} : Held denotes name held [] held
  | other {held held' : Option α} {m : Member} {ms : List Member} (apart : ¬ Spells name m.name)
      (others : Held denotes name held ms held') : Held denotes name held (m :: ms) held'
  | here {a : α} {held' : Option α} {m : Member} {ms : List Member} (named : Spells name m.name)
      (isValue : denotes a m.element.value) (others : Held denotes name (some a) ms held') :
      Held denotes name none (m :: ms) held'

/-- Just one member has this name, and its value is one of these. -/
def Once (name : List Char) (values : List Char → Prop) (ms : List Member) : Prop :=
  ∃ before m after, ms = before ++ m :: after ∧ Spells name m.name ∧ values m.element.value ∧
    ∀ other ∈ before ++ after, ¬ Spells name other.name

namespace Once
variable {name : List Char} {values : List Char → Prop} {ms : List Member}

theorem exists_named (once : Once name values ms) : ∃ m ∈ ms, Spells name m.name := by
  obtain ⟨before, m, after, rfl, named, -⟩ := once
  exact ⟨m, List.mem_append_right before List.mem_cons_self, named⟩

/-- A name that occurs once does not occur twice. -/
theorem not_twice (once : Once name values ms) {front mid back : List Member} {first second : Member}
    (split : ms = front ++ first :: (mid ++ second :: back)) (one : Spells name first.name) :
    ¬ Spells name second.name := by
  classical
  intro two
  let named : Member → Bool := fun m => decide (Spells name m.name)
  obtain ⟨before, m, after, rfl, isNamed, -, none⟩ := once
  have others : (before ++ after).countP named = 0 :=
    List.countP_eq_zero.mpr fun other member => by simpa [named] using none other member
  have single : (before ++ m :: after).countP named = 1 := by
    rw [List.countP_append] at others ⊢
    rw [List.countP_cons_of_pos (by simpa [named] using isNamed)]
    omega
  rw [split, List.countP_append, List.countP_cons_of_pos (by simpa [named] using one), List.countP_append,
    List.countP_cons_of_pos (by simpa [named] using two)] at single
  omega

end Once

section
variable {α : Type} {denotes : α → List Char → Prop} {name : List Char}

theorem held_nil_iff {held held' : Option α} : Held denotes name held [] held' ↔ held' = held := by
  constructor
  · intro all
    cases all
    rfl
  · rintro rfl
    exact .nil

theorem held_cons_iff {held held' : Option α} {m : Member} {ms : List Member} :
    Held denotes name held (m :: ms) held' ↔ (¬ Spells name m.name ∧ Held denotes name held ms held') ∨
      (Spells name m.name ∧ held = none ∧ ∃ a, denotes a m.element.value ∧ Held denotes name (some a) ms held') := by
  constructor
  · intro all
    cases all with
    | other apart others => exact .inl ⟨apart, others⟩
    | here named isValue others => exact .inr ⟨named, rfl, _, isValue, others⟩
  · rintro (⟨apart, others⟩ | ⟨named, rfl, a, isValue, others⟩)
    · exact .other apart others
    · exact .here named isValue others

theorem held_some_iff {a : α} {held' : Option α} {ms : List Member} :
    Held denotes name (some a) ms held' ↔ held' = some a ∧ ∀ m ∈ ms, ¬ Spells name m.name := by
  induction ms with
  | nil =>
    constructor
    · intro held
      cases held
      exact ⟨rfl, nofun⟩
    · rintro ⟨rfl, -⟩
      exact .nil
  | cons m ms ih =>
    rw [List.forall_mem_cons]
    constructor
    · intro held
      cases held with
      | other apart others =>
        obtain ⟨rfl, none⟩ := ih.mp others
        exact ⟨rfl, apart, none⟩
    · rintro ⟨rfl, apart, none⟩
      exact .other apart (ih.mpr ⟨rfl, none⟩)

/-- A field is filled by the one member that has its name. -/
theorem held_none_iff {a : α} {ms : List Member} :
    Held denotes name none ms (some a) ↔ Once name (denotes a) ms := by
  constructor
  · intro held
    induction ms with
    | nil => cases held
    | cons m ms ih =>
      cases held with
      | other apart others =>
        obtain ⟨before, only, after, rfl, named, isValue, none⟩ := ih others
        refine ⟨m :: before, only, after, rfl, named, isValue, ?_⟩
        rw [List.cons_append, List.forall_mem_cons]
        exact ⟨apart, none⟩
      | here named isValue others =>
        obtain ⟨same, none⟩ := held_some_iff.mp others
        obtain rfl := Option.some.inj same
        exact ⟨[], m, ms, rfl, named, isValue, none⟩
  · rintro ⟨before, m, after, rfl, named, isValue, none⟩
    induction before with
    | nil => exact .here named isValue (held_some_iff.mpr ⟨rfl, none⟩)
    | cons other before ih =>
      rw [List.cons_append, List.forall_mem_cons] at none
      exact .other none.1 (ih none.2)

end

/-- The names of the three fields, as texts are read. -/
def idName : List Char := ['i', 'd']
def authorName : List Char := ['u', 's', 'e', 'r', '_', 'i', 'd']
def textName : List Char := ['t', 'e', 'x', 't']

theorem eq_of_find {name known : List Char} {field : Field Id.Error Draft} (same : field.name = String.ofList known)
    (found : format.fields.find? (·.name = String.ofList name) = some field) : name = known := by
  have named := List.find?_some found
  rw [decide_eq_true_iff, same] at named
  exact (String.ofList_injective named).symm

theorem fills_iff {draft draft' : Draft} {m : Member} : format.Fills Takes draft m draft' ↔
    (Spells idName m.name ∧ draft.id = none ∧ ∃ id, IsId id m.element.value ∧ draft' = { draft with id := some id }) ∨
    (Spells authorName m.name ∧ draft.author = none ∧
      ∃ author, IsId author m.element.value ∧ draft' = { draft with author := some author }) ∨
    (Spells textName m.name ∧ draft.text = none ∧
      ∃ text, IsString text m.element.value ∧ draft' = { draft with text := some text }) ∨
    ∃ name, Spells name m.name ∧ name ∉ [idName, authorName, textName] ∧ draft' = draft := by
  constructor
  · intro fills
    cases fills with
    | field named found lacking taken =>
      have known := List.mem_of_find?_eq_some found
      simp only [format, List.mem_cons, List.not_mem_nil, or_false] at known
      rcases known with rfl | rfl | rfl
      · obtain rfl := eq_of_find (show "id" = String.ofList idName from rfl) found
        refine .inl ⟨named, by simpa using lacking, ?_⟩
        cases taken with
        | id _ isId => exact ⟨_, isId, rfl⟩
        | author name | text name => simp at name
      · obtain rfl := eq_of_find (show "user_id" = String.ofList authorName from rfl) found
        refine .inr (.inl ⟨named, by simpa using lacking, ?_⟩)
        cases taken with
        | author _ isId => exact ⟨_, isId, rfl⟩
        | id name | text name => simp at name
      · obtain rfl := eq_of_find (show "text" = String.ofList textName from rfl) found
        refine .inr (.inr (.inl ⟨named, by simpa using lacking, ?_⟩))
        cases taken with
        | text _ isString => exact ⟨_, isString, rfl⟩
        | id name | author name => simp at name
    | other named unknown =>
      refine .inr (.inr (.inr ⟨_, named, ?_, rfl⟩))
      intro known
      simp only [List.mem_cons, List.not_mem_nil, or_false] at known
      rcases known with rfl | rfl | rfl <;> cases unknown
  · rintro (⟨named, lacking, id, isId, rfl⟩ | ⟨named, lacking, author, isId, rfl⟩ |
      ⟨named, lacking, text, isString, rfl⟩ | ⟨name, named, unknown, rfl⟩)
    · exact .field named rfl (by simp [lacking]) (.id rfl isId)
    · exact .field named rfl (by simp [lacking]) (.author rfl isId)
    · exact .field named rfl (by simp [lacking]) (.text rfl isString)
    · refine .other named (List.find?_eq_none.mpr fun field known same => unknown ?_)
      rw [decide_eq_true_iff] at same
      simp only [format, List.mem_cons, List.not_mem_nil, or_false] at known ⊢
      rcases known with rfl | rfl | rfl
      · exact .inl (String.ofList_injective same.symm)
      · exact .inr (.inl (String.ofList_injective same.symm))
      · exact .inr (.inr (String.ofList_injective same.symm))

/-- The members of an object fill a draft if all names are texts and each field has what it holds from one member at
most. -/
theorem fillsAll_iff {draft draft' : Draft} {ms : List Member} : format.FillsAll Takes draft ms draft' ↔
    (∀ m ∈ ms, ∃ name, Spells name m.name) ∧ Held IsId idName draft.id ms draft'.id ∧
      Held IsId authorName draft.author ms draft'.author ∧
      Held IsString textName draft.text ms draft'.text := by
  induction ms generalizing draft with
  | nil =>
    rw [Json.Format.fillsAll_nil_iff, held_nil_iff, held_nil_iff, held_nil_iff]
    constructor
    · rintro rfl
      exact ⟨nofun, rfl, rfl, rfl⟩
    · rintro ⟨-, id, author, text⟩
      cases draft
      cases draft'
      simp_all
  | cons m ms ih =>
    have apart {a b : List Char} (named : Spells a m.name) (other : a ≠ b) : ¬ Spells b m.name :=
      fun named' => other (named.unique named')
    rw [Json.Format.fillsAll_cons_iff, List.forall_mem_cons, held_cons_iff, held_cons_iff, held_cons_iff]
    simp only [ih, fills_iff]
    constructor
    · rintro ⟨mid, fills, names, ids, authors, texts⟩
      obtain ⟨named, lacking, id, isId, rfl⟩ | ⟨named, lacking, author, isId, rfl⟩ |
        ⟨named, lacking, text, isString, rfl⟩ | ⟨name, named, unknown, rfl⟩ := fills
      · exact ⟨⟨⟨_, named⟩, names⟩, .inr ⟨named, lacking, id, isId, ids⟩, .inl ⟨apart named (by decide), authors⟩,
          .inl ⟨apart named (by decide), texts⟩⟩
      · exact ⟨⟨⟨_, named⟩, names⟩, .inl ⟨apart named (by decide), ids⟩, .inr ⟨named, lacking, author, isId, authors⟩,
          .inl ⟨apart named (by decide), texts⟩⟩
      · exact ⟨⟨⟨_, named⟩, names⟩, .inl ⟨apart named (by decide), ids⟩, .inl ⟨apart named (by decide), authors⟩,
          .inr ⟨named, lacking, text, isString, texts⟩⟩
      · simp only [List.mem_cons, List.not_mem_nil, or_false, not_or] at unknown
        exact ⟨⟨⟨_, named⟩, names⟩, .inl ⟨apart named unknown.1, ids⟩, .inl ⟨apart named unknown.2.1, authors⟩,
          .inl ⟨apart named unknown.2.2, texts⟩⟩
    · rintro ⟨⟨⟨name, named⟩, names⟩, ids, authors, texts⟩
      obtain ⟨otherId, ids⟩ | ⟨isNamed, lacking, id, isId, ids⟩ := ids
      · obtain ⟨otherAuthor, authors⟩ | ⟨isNamed, lacking, author, isId, authors⟩ := authors
        · obtain ⟨otherText, texts⟩ | ⟨isNamed, lacking, text, isString, texts⟩ := texts
          · refine ⟨draft, .inr (.inr (.inr ⟨name, named, ?_, rfl⟩)), names, ids, authors, texts⟩
            simp only [List.mem_cons, List.not_mem_nil, or_false, not_or]
            exact ⟨fun same => otherId (same ▸ named), fun same => otherAuthor (same ▸ named),
              fun same => otherText (same ▸ named)⟩
          · exact ⟨_, .inr (.inr (.inl ⟨isNamed, lacking, text, isString, rfl⟩)), names, ids, authors, texts⟩
        · obtain ⟨-, texts⟩ | ⟨isNamed', -⟩ := texts
          · exact ⟨_, .inr (.inl ⟨isNamed, lacking, author, isId, rfl⟩), names, ids, authors, texts⟩
          · exact absurd isNamed' (apart isNamed (by decide))
      · obtain ⟨-, authors⟩ | ⟨isNamed', -⟩ := authors
        · obtain ⟨-, texts⟩ | ⟨isNamed', -⟩ := texts
          · exact ⟨_, .inl ⟨isNamed, lacking, id, isId, rfl⟩, names, ids, authors, texts⟩
          · exact absurd isNamed' (apart isNamed (by decide))
        · exact absurd isNamed' (apart isNamed (by decide))

/-! ### Posts -/

/-- The members of an object make up the post: each of the three occurs once, among others that have other names. -/
structure MadeOf (post : Post) (ms : List Member) : Prop where
  named : ∀ m ∈ ms, ∃ name, Spells name m.name
  id : Once idName (IsId post.id) ms
  author : Once authorName (IsId post.author) ms
  text : Once textName (IsString post.text) ms

/-- Each of the three members occurs once. -/
theorem MadeOf.once {post : Post} {ms : List Member} (made : post.MadeOf ms) {name : List Char}
    (known : name ∈ [idName, authorName, textName]) : ∃ values, Once name values ms := by
  simp only [List.mem_cons, List.not_mem_nil, or_false] at known
  rcases known with rfl | rfl | rfl
  · exact ⟨_, made.id⟩
  · exact ⟨_, made.author⟩
  · exact ⟨_, made.text⟩

/-- The elements of an array are the three values of the post. -/
def ListedBy (post : Post) (es : List Element) : Prop :=
  ∃ id author text, es = [id, author, text] ∧ IsId post.id id.value ∧ IsId post.author author.value ∧
    IsString post.text text.value

/-- The draft that a post is made of. -/
def draft (post : Post) : Draft := ⟨some post.id, some post.author, some post.text⟩

theorem value_object_iff {ms : List Member} {cs : List Char} (object : IsObject ms cs)
    (wellFormed : ∀ m ∈ ms, m.WellFormed) (post : Post) (tail : Json.Input) :
    format.value (cs.map some ++ tail) = .ok (post.draft, tail) ↔ post.MadeOf ms := by
  have complete : ∀ field ∈ format.fields, field.has post.draft = true := by
    intro field known
    simp only [format, List.mem_cons, List.not_mem_nil, or_false] at known
    rcases known with rfl | rfl | rfl <;> rfl
  rw [Json.Format.object_eq_ok_iff regular object wellFormed, fillsAll_iff]
  constructor
  · rintro ⟨⟨named, id, author, text⟩, -⟩
    exact ⟨named, held_none_iff.mp id, held_none_iff.mp author, held_none_iff.mp text⟩
  · rintro ⟨named, id, author, text⟩
    exact ⟨⟨named, held_none_iff.mpr id, held_none_iff.mpr author, held_none_iff.mpr text⟩, complete, rfl⟩

theorem lists_iff {es : List Element} (post : Post) :
    Json.Format.Lists Takes format.blank format.fields es post.draft ↔ post.ListedBy es := by
  constructor
  · intro lists
    generalize made : post.draft = found at lists
    obtain _ | ⟨first, _ | ⟨second, _ | ⟨third, ⟨⟩⟩⟩⟩ := lists
    cases first with
    | author name | text name => simp at name
    | id _ isId =>
      cases second with
      | id name | text name => simp at name
      | author _ isAuthor =>
        cases third with
        | id name | author name => simp at name
        | text _ isString =>
          cases made
          exact ⟨_, _, _, rfl, isId, isAuthor, isString⟩
  · rintro ⟨id, author, text, rfl, isId, isAuthor, isString⟩
    exact .cons (.id rfl isId) (.cons (.author rfl isAuthor) (.cons (.text rfl isString) .nil))

theorem value_array_iff {es : List Element} {cs : List Char} (array : IsArray es cs) (spaced : ∀ e ∈ es, e.Spaced)
    (values : ∀ e ∈ es, IsValue e.value) (post : Post) (tail : Json.Input) :
    format.value (cs.map some ++ tail) = .ok (post.draft, tail) ↔ post.ListedBy es := by
  rw [Json.Format.array_eq_ok_iff regular array spaced values, lists_iff]
  exact and_iff_left rfl

theorem post?_eq_some_iff {found : Draft} {post : Post} : found.post? = some post ↔ found = post.draft := by
  obtain ⟨id, author, text⟩ := found
  obtain ⟨_, _, _⟩ := post
  cases id <;> cases author <;> cases text <;> simp [Draft.post?, draft]

theorem decode_eq_ok_iff {bytes : ByteArray} {post : Post} :
    decode bytes = .ok post ↔ format.read (Text.Utf8.read bytes) = .ok post.draft := by
  rw [decode]
  cases format.read (Text.Utf8.read bytes) with
  | error failure => simp
  | ok found =>
    rw [Except.ok.injEq, ← post?_eq_some_iff]
    dsimp only
    cases found.post? <;> simp

end FeedFanout.Post

namespace FeedFanout.FeedEntry
open Json (IsValue IsBlank IsObject IsArray Member Element Spells)
open Post (idName authorName textName)

/-- Bytes of blank space alone. -/
def BlankBytes (bytes : ByteArray) : Prop := ∃ blank, IsBlank blank ∧ bytes = blank.utf8Encode

theorem blankBytes_iff {bytes : ByteArray} : BlankBytes bytes ↔ ∀ c ∈ Text.Utf8.read bytes, Json.isSpace c = true := by
  constructor
  · rintro ⟨blank, isBlank, rfl⟩
    rw [Text.Utf8.read_encode]
    exact Json.isBlank_iff.mp isBlank
  · intro all
    obtain ⟨blank, same⟩ := Json.exists_of_isSpace all
    rw [same] at all
    exact ⟨blank, Json.isBlank_iff.mpr all, Text.Utf8.eq_encode_of_read same⟩

/-- A document is decoded as its value is, if nothing but blank space stands around it. -/
theorem decode_eq_ok_iff {before value : List Char} (isBlank : IsBlank before) (isValue : IsValue value)
    (tail : ByteArray) (post : Post) : decode ⟨(before ++ value).utf8Encode ++ tail⟩ = .ok post ↔
      Post.format.value (value.map some ++ Text.Utf8.read tail) = .ok (post.draft, Text.Utf8.read tail) ∧
        BlankBytes tail := by
  rw [decode, Json.mapError_eq_ok_iff, Post.decode_eq_ok_iff, Text.Utf8.read_append, List.map_append, List.append_assoc,
    Json.Format.read_eq_ok_iff Post.regular isBlank isValue, blankBytes_iff]

theorem decode_object_iff {before value : List Char} {ms : List Member} (isBlank : IsBlank before)
    (object : IsObject ms value) (wellFormed : ∀ m ∈ ms, m.WellFormed) (tail : ByteArray) (post : Post) :
    decode ⟨(before ++ value).utf8Encode ++ tail⟩ = .ok post ↔ post.MadeOf ms ∧ BlankBytes tail := by
  rw [decode_eq_ok_iff isBlank (object.isValue wellFormed), Post.value_object_iff object wellFormed]

theorem decode_array_iff {before value : List Char} {es : List Element} (isBlank : IsBlank before)
    (array : IsArray es value)
    (spaced : ∀ e ∈ es, e.Spaced) (values : ∀ e ∈ es, IsValue e.value) (tail : ByteArray) (post : Post) :
    decode ⟨(before ++ value).utf8Encode ++ tail⟩ = .ok post ↔ post.ListedBy es ∧ BlankBytes tail := by
  rw [decode_eq_ok_iff isBlank (.array array spaced values), Post.value_array_iff array spaced values]

/-- What is no post has a fault. -/
theorem exists_codec {entry : FeedEntry} (refused : ∀ post, entry.decode ≠ .ok post) :
    ∃ fault, entry.decode = .error (.codec fault) := by
  rw [decode] at refused ⊢
  cases decoded : Post.decode entry.bytes with
  | error fault => exact ⟨fault, rfl⟩
  | ok post => exact absurd (by rw [decoded]; rfl) (refused post)

/-- How documents are decoded that hold a value. -/
structure Documents : Prop where
  /-- An object is read as the post that its members make up, however they are written. -/
  object : ∀ (before : List Char) (ms : List Member) (value : List Char) (tail : ByteArray), IsBlank before →
    IsObject ms value → (∀ m ∈ ms, m.WellFormed) → ∀ post, decode ⟨(before ++ value).utf8Encode ++ tail⟩ = .ok post ↔
      post.MadeOf ms ∧ BlankBytes tail
  /-- An array is read as the post whose values it lists. -/
  array : ∀ (before : List Char) (es : List Element) (value : List Char) (tail : ByteArray), IsBlank before →
    IsArray es value → (∀ e ∈ es, e.Spaced) → (∀ e ∈ es, IsValue e.value) → ∀ post,
      decode ⟨(before ++ value).utf8Encode ++ tail⟩ = .ok post ↔ post.ListedBy es ∧ BlankBytes tail
  /-- An object that lacks one of the three members is refused. -/
  missing : ∀ (before : List Char) (ms : List Member) (value : List Char) (tail : ByteArray), IsBlank before →
    IsObject ms value → (∀ m ∈ ms, m.WellFormed) → ∀ name ∈ [idName, authorName, textName],
      (∀ m ∈ ms, ¬ Spells name m.name) → ∃ fault, decode ⟨(before ++ value).utf8Encode ++ tail⟩ = .error (.codec fault)
  /-- An object that has one of the three members twice is refused. -/
  twice : ∀ (before : List Char) (ms : List Member) (value : List Char) (tail : ByteArray), IsBlank before →
    IsObject ms value → (∀ m ∈ ms, m.WellFormed) → ∀ name ∈ [idName, authorName, textName],
      (∃ front first mid second back, ms = front ++ first :: (mid ++ second :: back) ∧ Spells name first.name ∧
        Spells name second.name) → ∃ fault, decode ⟨(before ++ value).utf8Encode ++ tail⟩ = .error (.codec fault)
  /-- Whatever value it is, nothing but blank space may stand behind it. -/
  alone : ∀ (before value : List Char) (tail : ByteArray), IsBlank before → IsValue value → ¬ BlankBytes tail →
    ∃ fault, decode ⟨(before ++ value).utf8Encode ++ tail⟩ = .error (.codec fault)

theorem documents : Documents := by
  refine ⟨fun before ms value tail isBlank object wellFormed => decode_object_iff isBlank object wellFormed tail,
    fun before es value tail isBlank array spaced values => decode_array_iff isBlank array spaced values tail, ?_, ?_, ?_⟩
  · intro before ms value tail isBlank object wellFormed name known missing
    refine exists_codec fun post decoded => ?_
    have made := ((decode_object_iff isBlank object wellFormed tail post).mp decoded).1
    obtain ⟨values, once⟩ := made.once known
    obtain ⟨m, member, named⟩ := once.exists_named
    exact missing m member named
  · rintro before ms value tail isBlank object wellFormed name known ⟨front, first, mid, second, back, split, one, two⟩
    refine exists_codec fun post decoded => ?_
    have made := ((decode_object_iff isBlank object wellFormed tail post).mp decoded).1
    obtain ⟨values, once⟩ := made.once known
    exact once.not_twice split one two
  · intro before value tail isBlank isValue more
    exact exists_codec fun post decoded => more ((decode_eq_ok_iff isBlank isValue tail post).mp decoded).2

end FeedFanout.FeedEntry
