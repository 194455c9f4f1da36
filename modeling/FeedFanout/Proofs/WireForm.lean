import FeedFanout.Proofs.Documents

/-!
The wire form of a post, read back. It has no control characters (`visible_wireChars`), and it is one of the ways to
write the post (`madeOf_wireMembers`), so a snapshot is decoded as the post it was taken of (`decode_snapshot`).
-/
namespace FeedFanout.Post
open Json (IsValue IsObject IsText Member Spells spells_escape)

theorem isText_encode (cs : List Char) : IsText cs (Json.Text.encode cs) := ⟨_, spells_escape cs, rfl⟩

theorem isValue_encode (cs : List Char) : IsValue (Json.Text.encode cs) := .text (spells_escape cs).isBody

theorem isId_encode {role : Role} (id : Id role) : IsId id (Json.Text.encode id.chars) :=
  ⟨_, isText_encode _, .grouped id.lower_chars⟩

/-- A member with no blank space in it. -/
def wireMember (name value : List Char) : Member :=
  ⟨[], name.flatMap Json.Text.escape, [], ⟨[], Json.Text.encode value, []⟩⟩

theorem wireMember_wellFormed (name value : List Char) : (wireMember name value).WellFormed where
  spaced := ⟨nofun, nofun, nofun, nofun⟩
  name := (spells_escape name).isBody
  value := isValue_encode value

/-- The members of the wire form. -/
def wireMembers (post : Post) : List Member :=
  [wireMember idName post.id.chars, wireMember authorName post.author.chars, wireMember textName post.text.toList]

theorem wellFormed_wireMembers (post : Post) : ∀ m ∈ post.wireMembers, m.WellFormed := by
  intro m member
  simp only [wireMembers, List.mem_cons, List.not_mem_nil, or_false] at member
  rcases member with rfl | rfl | rfl <;> exact wireMember_wellFormed ..

theorem chars_wireMember (name value : List Char) :
    (wireMember name value).chars = Json.Text.encode name ++ ':' :: Json.Text.encode value := by
  simp [wireMember, Member.chars, Json.Element.chars, Json.Text.encode]

theorem isObject_wireChars (post : Post) : IsObject post.wireMembers post.wireChars := by
  have written : post.wireChars =
      '{' :: (List.intercalate [','] (post.wireMembers.map Member.chars) ++ ['}']) := by
    have names : "id".toList = idName ∧ "user_id".toList = authorName ∧ "text".toList = textName := ⟨rfl, rfl, rfl⟩
    simp only [wireChars, memberChars, names, wireMembers, List.map_cons, List.map_nil, List.intercalate_cons_cons,
      List.intercalate_singleton, chars_wireMember, List.append_assoc, List.cons_append, List.nil_append]
  rw [written]
  exact .filled

theorem isValue_wireChars (post : Post) : IsValue post.wireChars :=
  post.isObject_wireChars.isValue post.wellFormed_wireMembers

/-- There is no control character in the wire form. -/
theorem visible_wireChars (post : Post) : ∀ c ∈ post.wireChars, 32 ≤ c.toNat := by
  have text (cs : List Char) : ∀ c ∈ Json.Text.encode cs, 32 ≤ c.toNat := by
    simp only [Json.Text.encode, List.cons_append, List.forall_mem_cons, List.forall_mem_append]
    exact ⟨by decide, (spells_escape cs).isBody.visible, by decide, nofun⟩
  have member (name : String) (cs : List Char) : ∀ c ∈ memberChars name (Json.Text.encode cs), 32 ≤ c.toNat := by
    simp only [memberChars, List.forall_mem_append, List.forall_mem_cons]
    exact ⟨text _, by decide, text cs⟩
  simp only [wireChars, List.cons_append, List.forall_mem_cons, List.forall_mem_append, List.append_assoc]
  exact ⟨by decide, member _ _, by decide, member _ _, by decide, member _ _, by decide, nofun⟩

theorem toUTF8_wire (post : Post) : post.wire.toUTF8 = post.wireChars.utf8Encode := by simp [wire]

theorem madeOf_wireMembers (post : Post) : post.MadeOf post.wireMembers := by
  have named (name value : List Char) : Spells name (wireMember name value).name := spells_escape name
  have apart {name other : List Char} (differ : name ≠ other) (value : List Char) :
      ¬ Spells name (wireMember other value).name := fun spells => differ (spells.unique (named other value))
  refine ⟨?_, ⟨[], _, _, rfl, named .., isId_encode _, ?_⟩, ⟨[_], _, _, rfl, named .., isId_encode _, ?_⟩,
    ⟨[_, _], _, [], rfl, named .., isText_encode _, ?_⟩⟩
  · intro m member
    simp only [wireMembers, List.mem_cons, List.not_mem_nil, or_false] at member
    rcases member with rfl | rfl | rfl <;> exact ⟨_, named ..⟩
  all_goals
    intro other member
    simp only [List.cons_append, List.nil_append, List.mem_cons, List.not_mem_nil, or_false] at member
    rcases member with rfl | rfl <;> exact apart (by decide) _

end FeedFanout.Post

namespace FeedFanout.FeedEntry

theorem bytes_snapshot (post : Post) : (snapshot post).bytes = post.wireChars.utf8Encode := by
  rw [snapshot, Post.toUTF8_wire]

theorem decode_snapshot (post : Post) : (snapshot post).decode = .ok post := by
  have unspaced : Json.IsBlank [] := nofun
  have entry : snapshot post = ⟨([] ++ post.wireChars).utf8Encode ++ .empty⟩ := by
    rw [ByteArray.append_empty, List.nil_append, ← bytes_snapshot]
  rw [entry, decode_object_iff unspaced post.isObject_wireChars post.wellFormed_wireMembers]
  exact ⟨post.madeOf_wireMembers, [], unspaced, rfl⟩

theorem snapshot_injective : Function.Injective snapshot := by
  intro first second same
  have decoded := decode_snapshot first
  rw [same, decode_snapshot] at decoded
  exact (Except.ok.inj decoded).symm

end FeedFanout.FeedEntry
