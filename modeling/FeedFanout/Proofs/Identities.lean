import FeedFanout.Proofs.WireForm
import Mathlib.Data.List.DropRight

/-!
Identities of users as texts. An identity is read from its spellings with any blanks around them, and from nothing else
(`parse_eq_ok_iff_around`): trimming takes off the blanks only, and no spelling begins or ends with one. All its
spellings have the digits of its number, so two texts with the same digits are of the same user
(`lastDigits_of_parse`). Its own text is one of the spellings. With as many digits for every number and the hyphens in
the same places, texts come in the order of the numbers (`text_lt_text_iff`).
-/
namespace FeedFanout

namespace Text

theorem toLower_of_isBlank {c : Char} (blank : isBlank c = true) : c.toLower = c := by
  have place : ¬(65 ≤ c.toNat ∧ c.toNat ≤ 90) := by
    simp only [isBlank, Bool.or_eq_true, Bool.and_eq_true, decide_eq_true_eq, beq_iff_eq] at blank
    omega
  rw [← Char.toNat_inj, Hex.toNat_toLower, if_neg place]

/-- What is not blank is left when the blanks around it are removed. -/
theorem trimList_around {before cs behind : List Char} (front : ∀ c ∈ before, isBlank c = true)
    (visible : ∀ c ∈ cs, isBlank c = false) (rear : ∀ c ∈ behind, isBlank c = true) :
    trimList (before ++ (cs ++ behind)) = cs := by
  unfold trimList
  rw [List.dropWhile_append_of_pos front]
  cases cs with
  | nil => simp [List.dropWhile_eq_nil_iff.mpr rear]
  | cons c cs =>
    -- the first and the last visible character are where removing stops
    have first : ((c :: cs) ++ behind).dropWhile isBlank = (c :: cs) ++ behind :=
      List.dropWhile_cons_of_neg (by simp [visible c List.mem_cons_self])
    have last : (c :: cs).reverse.dropWhile isBlank = (c :: cs).reverse := by
      rw [List.dropWhile_eq_self_iff]
      intro long
      rw [visible _ (List.mem_reverse.mp (List.getElem_mem long))]
      decide
    rw [first, List.reverse_append, List.dropWhile_append_of_pos (by simpa using rear), last, List.reverse_reverse]

/-- What is removed from both ends are blanks. -/
theorem exists_trimList (cs : List Char) : ∃ before behind, cs = before ++ (trimList cs ++ behind) ∧
    (∀ c ∈ before, isBlank c = true) ∧ ∀ c ∈ behind, isBlank c = true := by
  refine ⟨cs.takeWhile isBlank, (cs.dropWhile isBlank).rtakeWhile isBlank, ?_, fun c => List.mem_takeWhile_imp,
    fun c => List.mem_rtakeWhile_imp⟩
  change cs = cs.takeWhile isBlank ++ ((cs.dropWhile isBlank).rdropWhile isBlank ++ _)
  rw [List.rdropWhile_append_rtakeWhile, List.takeWhile_append_dropWhile]

namespace Hex

theorem digit_lt_digit {a b : Nat} (less : a < b) (small : b < 16) : digit a < digit b := by
  revert less
  revert a
  revert small
  revert b
  decide

theorem mem_digits {c : Char} {k n : Nat} (member : c ∈ digits k n) : ∃ d, d < 16 ∧ c = digit d := by
  induction k generalizing n with
  | zero => cases member
  | succ k ih =>
    obtain early | last := List.mem_append.mp member
    · exact ih early
    · exact ⟨n % 16, Nat.mod_lt n (by decide), List.mem_singleton.mp last⟩

/-- Of two numbers that agree in front, the digits of the smaller come first. -/
theorem digits_lt_digits {k m n : Nat} (above : m / 16 ^ k = n / 16 ^ k) (less : m < n) : digits k m < digits k n := by
  induction k with
  | zero => exact absurd (by simpa using above) less.ne
  | succ k ih =>
    rw [digits_succ, digits_succ]
    rw [Nat.pow_succ, ← Nat.div_div_eq_div_mul, ← Nat.div_div_eq_div_mul] at above
    -- the first digit decides, or it is the same and those behind it decide
    obtain same | lower := (Nat.div_le_div_right less.le (c := 16 ^ k)).eq_or_lt
    · rw [same]
      exact List.cons_lt_cons_self.mpr (ih same)
    · exact List.cons_lt_cons_iff.mpr (.inl (digit_lt_digit (by omega) (Nat.mod_lt _ (by decide))))

theorem digits_add (j k n : Nat) : digits (j + k) n = digits j (n / 16 ^ k) ++ digits k n := by
  induction j with
  | zero => simp [digits]
  | succ j ih =>
    rw [Nat.add_right_comm, digits_succ, digits_succ, ih, Nat.div_div_eq_div_mul, ← Nat.pow_add, Nat.add_comm k j]
    rfl

end Hex
end Text

/-- Of two texts that are as long in front, the one that is smaller there comes first. -/
theorem append_lt_append {xs ys zs ws : List Char} (length : xs.length = ys.length) (less : xs < ys) :
    xs ++ zs < ys ++ ws := by
  induction xs generalizing ys with
  | nil =>
    rw [List.eq_nil_of_length_eq_zero length.symm] at less
    cases less
  | cons x xs ih =>
    cases ys with
    | nil => cases length
    | cons y ys =>
      refine List.cons_lt_cons_iff.mpr ((List.cons_lt_cons_iff.mp less).imp_right fun ⟨same, less⟩ => ⟨same, ?_⟩)
      exact ih (Nat.succ.inj length) less

namespace Id
open Text.Hex (digit digits value? digits_lt_digits digits_add mem_digits length_digits value?_eq_some_iff value?_digit)
variable {role : Role}

theorem groups_lt_groups {sizes : List Nat} {m n : Nat} (above : m / 16 ^ sizes.sum = n / 16 ^ sizes.sum)
    (less : m < n) : groups sizes m < groups sizes n := by
  induction sizes with
  | nil => exact absurd (by simpa using above) less.ne
  | cons size sizes ih =>
    cases sizes with
    | nil => exact digits_lt_digits above less
    | cons next sizes =>
      change digits size _ ++ '-' :: groups (next :: sizes) m < digits size _ ++ '-' :: groups (next :: sizes) n
      rw [List.sum_cons, Nat.pow_add, Nat.mul_comm, ← Nat.div_div_eq_div_mul, ← Nat.div_div_eq_div_mul] at above
      obtain same | lower := (Nat.div_le_div_right less.le (c := 16 ^ (next :: sizes).sum)).eq_or_lt
      · rw [same]
        exact List.append_left_lt (List.cons_lt_cons_self.mpr (ih same))
      · exact append_lt_append (by simp) (digits_lt_digits above lower)

theorem chars_lt_chars {x y : Id role} (less : x < y) : x.chars < y.chars := by
  have whole (id : Id role) : id.number.val / 16 ^ [8, 4, 4, 4, 12].sum = 0 :=
    div_pow_eq_zero_iff.mpr id.number.isLt
  rw [chars_eq_groups, chars_eq_groups]
  exact groups_lt_groups ((whole x).trans (whole y).symm) less

/-- Texts of identifiers come in the order of the identifiers. -/
theorem text_lt_text_iff {x y : Id role} : x.text < y.text ↔ x < y := by
  rw [String.lt_iff, text, text, String.toList_ofList, String.toList_ofList]
  -- the order of numbers is total, so that the texts cannot be in order when the numbers are not
  refine ⟨fun less => ?_, chars_lt_chars⟩
  obtain lower | same | higher := Nat.lt_trichotomy x.number.val y.number.val
  · exact lower
  · obtain rfl : x = y := congrArg Id.mk (Fin.ext same)
    exact absurd less (List.lt_irrefl _)
  · exact absurd less (List.lt_asymm (chars_lt_chars higher))

theorem mem_chars {id : Id role} {c : Char} (member : c ∈ id.chars) : c = '-' ∨ ∃ d, d < 16 ∧ c = digit d := by
  simp only [chars, List.mem_append, List.mem_cons] at member
  rcases member with (((h | h | h) | h | h) | h | h) | h | h
  all_goals first | exact .inl h | exact .inr (mem_digits h)

/-! ### Blanks around a spelling -/

theorem isBlank_digit {d : Nat} (small : d < 16) : Text.isBlank (digit d) = false := by
  revert small; revert d; decide

theorem visible_chars {id : Id role} {c : Char} (member : c ∈ id.chars) : Text.isBlank c = false := by
  obtain rfl | ⟨d, small, rfl⟩ := mem_chars member
  · decide
  · exact isBlank_digit small

theorem escape_digit {d : Nat} (small : d < 16) : Json.Text.escape (digit d) = [digit d] := by
  revert small; revert d; decide

/-- There is no blank in a spelling. -/
theorem Spelling.visible {id : Id role} {cs : List Char} (spelling : Spelling id cs) :
    ∀ c ∈ cs, Text.isBlank c = false := by
  -- a blank is no letter, so it would stand in the lowercase text as well
  have lowered {ds es : List Char} (same : ds.map Char.toLower = es) (shown : ∀ c ∈ es, Text.isBlank c = false) :
      ∀ c ∈ ds, Text.isBlank c = false := by
    intro c member
    rw [← Bool.not_eq_true]
    intro blank
    have there : c ∈ es := by
      rw [← same, ← Text.toLower_of_isBlank blank]
      exact List.mem_map_of_mem member
    rw [shown c there] at blank
    cases blank
  have plain : ∀ c ∈ digits 32 id.number.val, Text.isBlank c = false := by
    intro c member
    obtain ⟨d, small, rfl⟩ := mem_digits member
    exact isBlank_digit small
  have grouped : ∀ c ∈ id.chars, Text.isBlank c = false := fun c => visible_chars
  cases spelling with
  | plain same => exact lowered same plain
  | grouped same => exact lowered same grouped
  | braced same =>
    simp only [List.cons_append, List.forall_mem_cons, List.forall_mem_append]
    exact ⟨by decide, lowered same grouped, by decide, nofun⟩
  | urn same =>
    have mark : Id.urn.all (fun c => !Text.isBlank c) = true := by decide
    simp only [List.all_eq_true, Bool.not_eq_true'] at mark
    exact lowered same (List.forall_mem_append.mpr ⟨mark, grouped⟩)

/-! ### The digits of a spelling -/

/-- The last 32 hexadecimal digits of a text, all in lowercase. -/
def lastDigits (cs : List Char) : List Char :=
  ((cs.map Char.toLower).filter fun c => (value? c).isSome).rtake 32

theorem filter_digits (k n : Nat) : ((digits k n).filter fun c => (value? c).isSome) = digits k n := by
  refine List.filter_eq_self.mpr fun c member => ?_
  obtain ⟨d, small, rfl⟩ := mem_digits member
  rw [value?_digit small]
  rfl

/-- The digits of the groups are those of the number. -/
theorem filter_groups (sizes : List Nat) (n : Nat) :
    ((groups sizes n).filter fun c => (value? c).isSome) = digits sizes.sum n := by
  induction sizes with
  | nil => rfl
  | cons size sizes ih =>
    cases sizes with
    | nil => exact filter_digits size n
    | cons next sizes =>
      change ((digits size _ ++ '-' :: groups (next :: sizes) n).filter _) = digits (size + (next :: sizes).sum) n
      rw [List.filter_append, filter_digits, List.filter_cons_of_neg (by decide), ih, ← digits_add]

theorem rtake_digits (front : List Char) (n : Nat) : (front ++ digits 32 n).rtake 32 = digits 32 n := by
  simp [List.rtake]

theorem Spelling.lastDigits_eq {id : Id role} {cs : List Char} (spelling : Spelling id cs) :
    lastDigits cs = digits 32 id.number.val := by
  have grouped : (id.chars.filter fun c => (value? c).isSome) = digits 32 id.number.val := by
    rw [chars_eq_groups]
    exact filter_groups ..
  have mark : (Id.urn.filter fun c => (value? c).isSome) = ['d'] := by decide
  suffices shape : ∃ front, ((cs.map Char.toLower).filter fun c => (value? c).isSome) =
      front ++ digits 32 id.number.val by
    obtain ⟨front, shape⟩ := shape
    rw [lastDigits, shape, rtake_digits]
  cases spelling with
  | plain same => exact ⟨[], by rw [same, filter_digits, List.nil_append]⟩
  | grouped same => exact ⟨[], by rw [same, grouped, List.nil_append]⟩
  | braced same =>
    refine ⟨[], ?_⟩
    rw [List.map_append, List.map_cons, same, List.filter_append, List.filter_cons_of_neg (by decide), grouped,
      List.nil_append]
    exact List.append_nil _
  | urn same => exact ⟨['d'], by rw [same, List.filter_append, grouped, mark]⟩

theorem filter_blanks {blanks : List Char} (blank : ∀ c ∈ blanks, Text.isBlank c = true) :
    ((blanks.map Char.toLower).filter fun c => (value? c).isSome) = [] := by
  rw [List.filter_eq_nil_iff, List.forall_mem_map]
  intro c member digit
  rw [Text.toLower_of_isBlank (blank c member), Option.isSome_iff_exists] at digit
  obtain ⟨d, read⟩ := digit
  obtain ⟨small, lower⟩ := value?_eq_some_iff.mp read
  rw [Text.toLower_of_isBlank (blank c member)] at lower
  have shown := isBlank_digit small
  rw [← lower, blank c member] at shown
  cases shown

/-- Blanks around a text are no digits of it. -/
theorem lastDigits_around {before cs behind : List Char} (front : ∀ c ∈ before, Text.isBlank c = true)
    (rear : ∀ c ∈ behind, Text.isBlank c = true) : lastDigits (before ++ (cs ++ behind)) = lastDigits cs := by
  simp only [lastDigits, List.map_append, List.filter_append, filter_blanks front, filter_blanks rear, List.nil_append,
    List.append_nil]

end Id

/-! ### Identities of users -/

namespace UserId

theorem parse_eq_ok_iff {text : String} {user : UserId} :
    parse text = .ok user ↔ Id.Spelling user (Text.trimList text.toList) := by
  rw [← Id.parse_eq_ok_iff, parse]
  cases (Id.parse (Text.trimList text.toList) : Except Id.Error UserId) <;> simp

/-- An identity is read from its spellings with any blanks around them, and from nothing else. -/
theorem parse_eq_ok_iff_around {text : String} {user : UserId} :
    parse text = .ok user ↔ ∃ before cs behind, text.toList = before ++ (cs ++ behind) ∧
      (∀ c ∈ before, Text.isBlank c = true) ∧ (∀ c ∈ behind, Text.isBlank c = true) ∧ Id.Spelling user cs := by
  rw [parse_eq_ok_iff]
  constructor
  · intro spelling
    obtain ⟨before, behind, whole, front, rear⟩ := Text.exists_trimList text.toList
    exact ⟨before, _, behind, whole, front, rear, spelling⟩
  · rintro ⟨before, cs, behind, whole, front, rear, spelling⟩
    rwa [whole, Text.trimList_around front spelling.visible rear]

theorem lastDigits_of_parse {text : String} {user : UserId} (read : parse text = .ok user) :
    Id.lastDigits text.toList = Text.Hex.digits 32 user.number.val := by
  obtain ⟨before, cs, behind, whole, front, rear, spelling⟩ := parse_eq_ok_iff_around.mp read
  rw [whole, Id.lastDigits_around front rear, spelling.lastDigits_eq]

/-- Users with the same digits are the same. -/
theorem digits_injective {x y : UserId}
    (same : Text.Hex.digits 32 x.number.val = Text.Hex.digits 32 y.number.val) : x = y := by
  have read (user : UserId) : Id.parse (Text.Hex.digits 32 user.number.val) = .ok user :=
    Id.parse_eq_ok_iff.mpr (.plain (Text.Hex.lower_digits ..))
  have both := read x
  rw [same, read y] at both
  exact (Except.ok.inj both).symm

theorem parse_text (user : UserId) : parse user.text = .ok user := by
  refine parse_eq_ok_iff_around.mpr ⟨[], user.chars, [], ?_, nofun, nofun, .grouped user.lower_chars⟩
  rw [Id.text, String.toList_ofList, List.append_nil, List.nil_append]

/-- The text of an identity in quotes is a JSON string, and read as the identity. -/
theorem readId_encode (user : UserId) :
    Post.readId .user (Json.Input.ofString (Json.Text.encodeString user.text)) = .ok (user, []) := by
  have blank : Json.IsBlank [] := nofun
  have read := (Post.readId_eq_ok_iff (Post.isValue_encode user.chars) blank user [] []).mpr
    ⟨Post.isId_encode user, rfl⟩
  simpa [Json.Input.ofString, Json.Text.encodeString, Id.text] using read

/-- No character of an identity is escaped. -/
theorem encodeString_text (user : UserId) : Json.Text.encodeString user.text = "\"" ++ user.text ++ "\"" := by
  have bare : user.chars.flatMap Json.Text.escape = user.chars := by
    conv_rhs => rw [← List.flatMap_singleton' user.chars]
    refine List.flatMap_congr fun c member => ?_
    obtain rfl | ⟨d, small, rfl⟩ := Id.mem_chars member
    · decide
    · exact Id.escape_digit small
  have quote : "\"".toList = ['"'] := rfl
  rw [← String.toList_inj, String.toList_append, String.toList_append, quote, Json.Text.encodeString, Id.text,
    String.toList_ofList, String.toList_ofList, Json.Text.encode, bare]
  rfl

/-- What there is to say of identities as texts. A text is read as an identity exactly if it is one of its spellings
with any blanks around it. Texts that are read have the 32 digits of the identity, so those with the same digits in
either case are read as the same. The text of an identity has 36 characters, hyphens and lowercase digits; it is read
as the identity, and so is the JSON string of it, which has quotes around it and nothing else. Texts are ordered as
the identities are, so it is the same to sort one or the other. -/
theorem canonical :
    (∀ text user, parse text = .ok user ↔ ∃ before cs behind, text.toList = before ++ (cs ++ behind) ∧
      (∀ c ∈ before, Text.isBlank c = true) ∧ (∀ c ∈ behind, Text.isBlank c = true) ∧ Id.Spelling user cs) ∧
    (∀ text other x y, parse text = .ok x → parse other = .ok y →
      (Id.lastDigits text.toList = Id.lastDigits other.toList ↔ x = y)) ∧
    (∀ user : UserId, user.text.length = 36 ∧
      (∀ c ∈ user.text.toList, c = '-' ∨ ∃ d, d < 16 ∧ c = Text.Hex.digit d) ∧
      parse user.text = .ok user ∧ Json.Text.encodeString user.text = "\"" ++ user.text ++ "\"" ∧
      Post.readId .user (Json.Input.ofString (Json.Text.encodeString user.text)) = .ok (user, [])) ∧
    (∀ x y : UserId, x < y ↔ x.text < y.text) ∧
    ∀ users : List UserId, (users.mergeSort fun x y => ¬y < x).map Id.text =
      (users.map Id.text).mergeSort fun s t => ¬t < s := by
  refine ⟨fun text user => parse_eq_ok_iff_around, ?_, ?_, fun x y => Id.text_lt_text_iff.symm, ?_⟩
  · intro text other x y read read'
    rw [lastDigits_of_parse read, lastDigits_of_parse read']
    refine ⟨digits_injective, ?_⟩
    rintro rfl
    rfl
  · intro user
    refine ⟨?_, ?_, user.parse_text, user.encodeString_text, user.readId_encode⟩
    · rw [Id.text, String.length_ofList, Id.length_chars]
    · rw [Id.text, String.toList_ofList]
      exact fun c => Id.mem_chars
  · intro users
    refine List.map_mergeSort fun x _ y _ => ?_
    simp only [Id.text_lt_text_iff]

/-- Capitals between braces with blanks around them, and the letters `urn:uuid:` in front: one identity, one row of
digits. -/
theorem canonical_braced :
    parse "\u2003\x7b9F0C4F1E-1B7A-4E57-8B6D-0A1B2C3D4E5F\x7d\n" = .ok (.ofNat 0x9f0c4f1e1b7a4e578b6d0a1b2c3d4e5f) ∧
      parse "URN:uuid:9f0c4f1e-1b7a-4e57-8b6d-0a1b2c3d4e5F" = .ok (.ofNat 0x9f0c4f1e1b7a4e578b6d0a1b2c3d4e5f) ∧
      Id.lastDigits "\u2003\x7b9F0C4F1E-1B7A-4E57-8B6D-0A1B2C3D4E5F\x7d\n".toList =
        Id.lastDigits "URN:uuid:9f0c4f1e-1b7a-4e57-8b6d-0a1b2c3d4e5F".toList := by
  have braced : parse "\u2003\x7b9F0C4F1E-1B7A-4E57-8B6D-0A1B2C3D4E5F\x7d\n" =
      .ok (.ofNat 0x9f0c4f1e1b7a4e578b6d0a1b2c3d4e5f) := by decide +kernel
  have urn : parse "URN:uuid:9f0c4f1e-1b7a-4e57-8b6d-0a1b2c3d4e5F" =
      .ok (.ofNat 0x9f0c4f1e1b7a4e578b6d0a1b2c3d4e5f) := by decide +kernel
  exact ⟨braced, urn, (canonical.2.1 _ _ _ _ braced urn).mpr rfl⟩

end UserId
end FeedFanout
