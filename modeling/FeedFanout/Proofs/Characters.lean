import FeedFanout.Text.Utf8
import Mathlib.Data.Nat.Basic

/-!
Characters in bytes. A text in front of other bytes is read as its characters (`read_append`), and only the UTF-8 form
of a text is read as characters alone (`eq_encode_of_read`). Bytes that are a text are not repaired (`repair_toUTF8`).
-/
namespace FeedFanout.Text.Utf8

theorem extract_extract_size (bytes : ByteArray) (i j : Nat) :
    (bytes.extract i bytes.size).extract j (bytes.extract i bytes.size).size = bytes.extract (i + j) bytes.size := by
  rw [ByteArray.extract_extract, ByteArray.size_extract]
  congr 1
  omega

/-- Reading goes on as if the bytes began where it stands. -/
theorem readFrom_eq (bytes : ByteArray) (i : Nat) (before : List (Option Char)) :
    readFrom bytes i before = before.reverse ++ read (bytes.extract i bytes.size) := by
  induction left : bytes.size - i using Nat.strong_induction_on generalizing bytes i before with
  | h n ih =>
    have size : (bytes.extract i bytes.size).size = bytes.size - i := by simp
    rw [read, readFrom, readFrom.eq_def (bytes.extract i bytes.size), size]
    by_cases inside : i < bytes.size
    · rw [if_pos inside, if_pos (by omega), ByteArray.utf8DecodeChar?_eq_utf8DecodeChar?_extract]
      cases decoded : (bytes.extract i bytes.size).utf8DecodeChar? 0 with
      | none =>
        dsimp only
        rw [ih (bytes.size - (i + 1)) (by omega) _ _ _ rfl, ih (bytes.size - i - 1) (by omega) _ _ _ (by omega),
          extract_extract_size]
        simp
      | some c =>
        have positive := c.utf8Size_pos
        dsimp only
        rw [ih (bytes.size - (i + c.utf8Size)) (by omega) _ _ _ rfl,
          ih (bytes.size - i - c.utf8Size) (by omega) _ _ _ (by omega),
          extract_extract_size]
        simp
    · rw [if_neg inside, if_neg (by omega)]
      simp

theorem read_empty : read .empty = [] := by rw [read, readFrom]; rfl

/-- A character at the front. -/
theorem read_of_decode {bytes : ByteArray} {c : Char} (decoded : bytes.utf8DecodeChar? 0 = some c) :
    read bytes = some c :: read (bytes.extract c.utf8Size bytes.size) := by
  have inside : 0 < bytes.size := ByteArray.lt_size_of_isSome_utf8DecodeChar? (by simp [decoded])
  rw [read, readFrom, if_pos inside, decoded]
  dsimp only
  rw [readFrom_eq]
  simp

/-- A byte at the front that begins no character. -/
theorem read_of_stray {bytes : ByteArray} (inside : 0 < bytes.size) (stray : bytes.utf8DecodeChar? 0 = none) :
    ∃ rest, read bytes = none :: rest := by
  rw [read, readFrom, if_pos inside, stray]
  dsimp only
  rw [readFrom_eq]
  exact ⟨_, rfl⟩

theorem read_append (cs : List Char) (tail : ByteArray) : read (cs.utf8Encode ++ tail) = cs.map some ++ read tail := by
  induction cs with
  | nil => simp
  | cons c cs ih =>
    have split : (c :: cs).utf8Encode ++ tail = [c].utf8Encode ++ (cs.utf8Encode ++ tail) := by
      rw [List.utf8Encode_cons, ByteArray.append_assoc]
    have width : [c].utf8Encode.size = c.utf8Size := by simp [List.utf8Encode_singleton]
    rw [split, read_of_decode List.utf8DecodeChar?_utf8Encode_singleton_append, ← width, ByteArray.size_append,
      ByteArray.extract_append_eq_right rfl rfl, ih]
    rfl

theorem read_encode (cs : List Char) : read cs.utf8Encode = cs.map some := by
  have whole := read_append cs .empty
  rwa [ByteArray.append_empty, read_empty, List.append_nil] at whole

theorem read_toUTF8 (s : String) : read s.toUTF8 = s.toList.map some := by
  rw [← read_encode, String.utf8Encode_toList]
  rfl

/-- From the first byte of a text on, its characters are read. -/
theorem repairFrom_append (front : ByteArray) (cs before : List Char) :
    repairFrom (front ++ cs.utf8Encode) front.size before = before.reverse ++ cs := by
  induction cs generalizing front before with
  | nil =>
    rw [repairFrom, if_neg (by simp)]
    simp
  | cons c cs ih =>
    have split : front ++ (c :: cs).utf8Encode = front ++ [c].utf8Encode ++ cs.utf8Encode := by
      rw [List.utf8Encode_cons, ByteArray.append_assoc]
    have width : (front ++ [c].utf8Encode).size = front.size + c.utf8Size := by simp [List.utf8Encode_singleton]
    have decoded : (front ++ (c :: cs).utf8Encode).utf8DecodeChar? front.size = some c := by
      rw [ByteArray.utf8DecodeChar?_eq_utf8DecodeChar?_extract, ByteArray.extract_append_eq_right rfl (by simp),
        List.utf8Encode_cons]
      exact List.utf8DecodeChar?_utf8Encode_singleton_append
    have inside : front.size < (front ++ (c :: cs).utf8Encode).size := by
      have positive := c.utf8Size_pos
      rw [split, ByteArray.size_append, width]
      omega
    rw [repairFrom, if_pos inside, decoded]
    dsimp only
    rw [split, ← width, ih, List.reverse_cons, List.append_assoc]
    rfl

/-- There is nothing to repair in a text. -/
theorem repair_toUTF8 (s : String) : repair s.toUTF8.data.toList = s.toList := by
  have whole := repairFrom_append .empty s.toList []
  rwa [ByteArray.empty_append, String.utf8Encode_toList] at whole

/-- Bytes that are read as characters alone are their UTF-8 form. -/
theorem eq_encode_of_read {bytes : ByteArray} {cs : List Char} (all : read bytes = cs.map some) :
    bytes = cs.utf8Encode := by
  induction cs generalizing bytes with
  | nil =>
    refine ByteArray.size_eq_zero_iff.mp (Nat.eq_zero_of_not_pos fun inside => ?_)
    cases decoded : bytes.utf8DecodeChar? 0 with
    | none =>
      obtain ⟨rest, begun⟩ := read_of_stray inside decoded
      cases begun.symm.trans all
    | some c => cases (read_of_decode decoded).symm.trans all
  | cons c cs ih =>
    have inside : 0 < bytes.size := by
      refine Nat.pos_of_ne_zero fun none => ?_
      rw [ByteArray.size_eq_zero_iff.mp none, read_empty] at all
      cases all
    cases decoded : bytes.utf8DecodeChar? 0 with
    | none =>
      obtain ⟨rest, begun⟩ := read_of_stray inside decoded
      cases begun.symm.trans all
    | some d =>
      rw [read_of_decode decoded, List.map_cons, List.cons.injEq, Option.some.injEq] at all
      obtain ⟨rfl, others⟩ := all
      have whole := ByteArray.eq_of_utf8DecodeChar?_eq_some decoded
      rw [ih others] at whole
      rw [whole, ← List.singleton_append, List.utf8Encode_append, List.utf8Encode_singleton]

/-- Only a control character has a byte below the space. -/
theorem visible_encodeChar {c : Char} (visible : 32 ≤ c.toNat) : ∀ b ∈ String.utf8EncodeChar c, 32 ≤ b := by
  have high {n : Nat} (low : 32 ≤ n) (small : n < 256) : 32 ≤ UInt8.ofNat n := by
    rw [UInt8.le_iff_toNat_le, UInt8.toNat_ofNat', Nat.mod_eq_of_lt small]
    exact low
  have number : c.val.toNat = c.toNat := rfl
  intro b member
  simp only [String.utf8EncodeChar, number] at member
  split_ifs at member <;> simp only [List.mem_cons, List.not_mem_nil, or_false] at member
  · subst member
    exact high visible (by omega)
  · rcases member with rfl | rfl <;> exact high (by omega) (by omega)
  · rcases member with rfl | rfl | rfl <;> exact high (by omega) (by omega)
  · rcases member with rfl | rfl | rfl | rfl <;> exact high (by omega) (by omega)

theorem visible_encode {cs : List Char} (visible : ∀ c ∈ cs, 32 ≤ c.toNat) : ∀ b ∈ cs.utf8Encode.data.toList, 32 ≤ b := by
  intro b member
  simp only [List.utf8Encode, List.data_toByteArray, List.mem_flatMap] at member
  obtain ⟨c, among, member⟩ := member
  exact visible_encodeChar (visible c among) b member

end FeedFanout.Text.Utf8
