import FeedFanout.Id
import Mathlib.Data.Nat.Basic
import Mathlib.Tactic.SplitIfs
import Mathlib.Tactic.NormNum

/-!
Spellings of identifiers. The digits of a number are read as the number, in either case (`read?_eq_some_iff`), and an
identifier is read from its spellings in four forms, and from nothing else (`parse_eq_ok_iff`).
-/
namespace FeedFanout.Text.Hex

theorem toNat_toLower (c : Char) :
    c.toLower.toNat = if 65 ≤ c.toNat ∧ c.toNat ≤ 90 then c.toNat + 32 else c.toNat := by
  have upper : (c.val ≥ 'A'.val ∧ c.val ≤ 'Z'.val) ↔ 65 ≤ c.toNat ∧ c.toNat ≤ 90 := by
    simp only [ge_iff_le, UInt32.le_iff_toNat_le, Char.toNat]
    rfl
  unfold Char.toLower
  by_cases letter : 65 ≤ c.toNat ∧ c.toNat ≤ 90
  · rw [dif_pos (upper.mpr letter), if_pos letter]
    simp only [Char.toNat, UInt32.toNat_add] at letter ⊢
    have shift : ('a'.val - 'A'.val).toNat = 32 := by decide
    omega
  · rw [dif_neg (mt upper.mp letter), if_neg letter]

theorem toNat_digit {d : Nat} (small : d < 16) : (digit d).toNat = if d < 10 then 48 + d else 87 + d := by
  revert small; revert d; decide

theorem value?_digit {n : Nat} (small : n < 16) : value? (digit n) = some n := by
  revert small; revert n; decide

/-- A digit is read in either case. -/
theorem value?_eq_some_iff {c : Char} {d : Nat} : value? c = some d ↔ d < 16 ∧ c.toLower = digit d := by
  rw [← Char.toNat_inj, toNat_toLower]
  constructor
  · intro read
    simp only [value?] at read
    split_ifs at read <;> obtain rfl := Option.some.inj read
    all_goals
      refine ⟨by omega, ?_⟩
      rw [toNat_digit (by omega)]
      split_ifs <;> omega
  · rintro ⟨small, lower⟩
    rw [toNat_digit small] at lower
    simp only [value?]
    split_ifs at lower ⊢ <;> first | (exfalso; omega) | (congr 1; omega)

theorem lower_digits (k n : Nat) : (digits k n).map Char.toLower = digits k n := by
  induction k generalizing n with
  | zero => rfl
  | succ k ih =>
    rw [digits, List.map_append, ih, List.map_singleton,
      (value?_eq_some_iff.mp (value?_digit (Nat.mod_lt n (by decide)))).2]

/-- The first digit of a number. -/
theorem digits_succ (k n : Nat) : digits (k + 1) n = digit (n / 16 ^ k % 16) :: digits k n := by
  induction k generalizing n with
  | zero => simp [digits]
  | succ k ih =>
    rw [digits, ih, digits, Nat.div_div_eq_div_mul, Nat.pow_succ']
    rfl

/-- What is read are the digits of the number, in either case, behind those that were read before. -/
theorem read?_eq_some_iff {k acc n : Nat} {cs rest : List Char} :
    read? k acc cs = some (n, rest) ↔ n / 16 ^ k = acc ∧ ∃ ds, ds.map Char.toLower = digits k n ∧ cs = ds ++ rest := by
  induction k generalizing acc cs with
  | zero =>
    simp [read?, digits]
    tauto
  | succ k ih =>
    have above : n / 16 ^ (k + 1) = n / 16 ^ k / 16 := by rw [Nat.div_div_eq_div_mul, Nat.pow_succ]
    have first (d : Nat) (small : d < 16) : n / 16 ^ k = 16 * acc + d ↔ n / 16 ^ (k + 1) = acc ∧ n / 16 ^ k % 16 = d := by
      omega
    rw [digits_succ]
    constructor
    · intro read
      cases cs with
      | nil => simp [read?] at read
      | cons c cs =>
        simp only [read?] at read
        split at read
        next d digit =>
          obtain ⟨small, lower⟩ := value?_eq_some_iff.mp digit
          obtain ⟨before, ds, same, rfl⟩ := ih.mp read
          obtain ⟨value, last⟩ := (first d small).mp before
          exact ⟨value, c :: ds, by rw [List.map_cons, lower, same, last], rfl⟩
        · cases read
    · rintro ⟨value, ds, same, rfl⟩
      obtain ⟨c, ds, rfl, lower, same⟩ := List.map_eq_cons_iff.mp same
      have small : n / 16 ^ k % 16 < 16 := Nat.mod_lt _ (by decide)
      rw [List.cons_append, read?, value?_eq_some_iff.mpr ⟨small, lower⟩]
      exact ih.mpr ⟨(first _ small).mpr ⟨value, rfl⟩, ds, same, rfl⟩

end FeedFanout.Text.Hex

namespace FeedFanout.Id
open Text.Hex (digits read? read?_eq_some_iff length_digits)
variable {role : Role}

/-- The ways to spell an identifier. Letters are of either case. -/
inductive Spelling (id : Id role) : List Char → Prop
  | plain {cs : List Char} (same : cs.map Char.toLower = digits 32 id.number.val) : Spelling id cs
  | grouped {cs : List Char} (same : cs.map Char.toLower = id.chars) : Spelling id cs
  | braced {cs : List Char} (same : cs.map Char.toLower = id.chars) : Spelling id ('{' :: cs ++ ['}'])
  | urn {cs : List Char} (same : cs.map Char.toLower = urn ++ id.chars) : Spelling id cs

/-- The numbers of identifiers have 32 digits. -/
theorem div_pow_eq_zero_iff {n : Nat} : n / 16 ^ 32 = 0 ↔ n < 2 ^ 128 := by
  rw [Nat.div_eq_zero_iff]
  norm_num

theorem plain?_eq_some_iff {cs : List Char} {n : Nat} :
    plain? cs = some n ↔ n < 2 ^ 128 ∧ cs.map Char.toLower = digits 32 n := by
  have whole : plain? cs = some n ↔ read? 32 0 cs = some (n, []) := by
    unfold plain?
    split <;> simp_all
  rw [whole, read?_eq_some_iff, div_pow_eq_zero_iff]
  simp

theorem lower_hyphen {c : Char} : c.toLower = '-' ↔ c = '-' := by
  rw [← Char.toNat_inj, ← Char.toNat_inj, Text.Hex.toNat_toLower]
  have hyphen : '-'.toNat = 45 := rfl
  split_ifs <;> omega

/-- Groups of digits of a number, of the given sizes and with a hyphen between them. -/
def groups : List Nat → Nat → List Char
  | [], _ => []
  | [size], n => digits size n
  | size :: sizes, n => digits size (n / 16 ^ sizes.sum) ++ '-' :: groups sizes n

/-- A group with others behind it. -/
theorem readGroups?_cons_iff {size next acc n : Nat} {sizes : List Nat} {cs rest : List Char} :
    readGroups? (size :: next :: sizes) acc cs = some (n, rest) ↔
      ∃ mid cs', read? size acc cs = some (mid, '-' :: cs') ∧ readGroups? (next :: sizes) mid cs' = some (n, rest) := by
  simp only [readGroups?]
  constructor
  · intro read
    split at read
    next mid cs' group => exact ⟨mid, cs', group, read⟩
    · cases read
  · rintro ⟨mid, cs', group, read⟩
    rw [group]
    exact read

theorem readGroups?_eq_some_iff {sizes : List Nat} {acc n : Nat} {cs rest : List Char} :
    readGroups? sizes acc cs = some (n, rest) ↔
      n / 16 ^ sizes.sum = acc ∧ ∃ ds, ds.map Char.toLower = groups sizes n ∧ cs = ds ++ rest := by
  induction sizes generalizing acc cs with
  | nil =>
    simp only [readGroups?, groups, List.map_eq_nil_iff, Option.some.injEq, Prod.mk.injEq, List.sum_nil, pow_zero,
      Nat.div_one, exists_eq_left, List.nil_append, eq_comm (a := acc)]
  | cons size sizes ih =>
    cases sizes with
    | nil => simpa [readGroups?, groups] using read?_eq_some_iff
    | cons next sizes =>
      have above : n / 16 ^ (next :: sizes).sum / 16 ^ size = n / 16 ^ (size :: next :: sizes).sum := by
        rw [Nat.div_div_eq_div_mul, ← pow_add, add_comm]
        rfl
      simp only [readGroups?_cons_iff, groups]
      constructor
      · rintro ⟨mid, cs', first, others⟩
        obtain ⟨rfl, es, same, rfl⟩ := ih.mp others
        obtain ⟨value, ds, digits, rfl⟩ := read?_eq_some_iff.mp first
        refine ⟨above.symm.trans value, ds ++ '-' :: es, ?_, by simp⟩
        rw [List.map_append, List.map_cons, digits, lower_hyphen.mpr rfl, same]
      · rintro ⟨value, fs, same, rfl⟩
        obtain ⟨ds, _, rfl, digits, behind⟩ := List.map_eq_append_iff.mp same
        obtain ⟨_, es, rfl, hyphen, others⟩ := List.map_eq_cons_iff.mp behind
        obtain rfl := lower_hyphen.mp hyphen
        exact ⟨_, es ++ rest, read?_eq_some_iff.mpr ⟨above.trans value, ds, digits, by simp⟩,
          ih.mpr ⟨rfl, es, others, rfl⟩⟩

theorem chars_eq_groups (id : Id role) : id.chars = groups [8, 4, 4, 4, 12] id.number.val := by
  simp [chars, groups]

theorem grouped?_eq_some_iff {cs : List Char} {n : Nat} :
    grouped? cs = some n ↔ n < 2 ^ 128 ∧ cs.map Char.toLower = groups [8, 4, 4, 4, 12] n := by
  have whole : grouped? cs = some n ↔ readGroups? [8, 4, 4, 4, 12] 0 cs = some (n, []) := by
    unfold grouped?
    split <;> simp_all
  rw [whole, readGroups?_eq_some_iff]
  simp only [List.append_nil, exists_eq_right']
  exact and_congr_left' div_pow_eq_zero_iff

theorem grouped?_chars_iff {cs : List Char} {id : Id role} :
    grouped? cs = some id.number.val ↔ cs.map Char.toLower = id.chars := by
  rw [grouped?_eq_some_iff, chars_eq_groups]
  exact and_iff_right id.number.isLt

theorem length_of_plain? {cs : List Char} {n : Nat} (read : plain? cs = some n) : cs.length = 32 := by
  have same := (plain?_eq_some_iff.mp read).2
  rw [← List.length_map Char.toLower, same, length_digits]

theorem length_of_grouped? {cs : List Char} {n : Nat} (read : grouped? cs = some n) : cs.length = 36 := by
  have same := (grouped?_eq_some_iff.mp read).2
  rw [← List.length_map Char.toLower, same]
  simp [groups]

theorem braced?_eq_some_iff {cs inner : List Char} : braced? cs = some inner ↔ cs = '{' :: inner ++ ['}'] := by
  constructor
  · intro read
    unfold braced? at read
    split at read
    next cs =>
      split at read
      next last =>
        obtain ⟨ys, rfl⟩ := List.getLast?_eq_some_iff.mp last
        obtain rfl := Option.some.inj read
        simp
      · cases read
    · cases read
  · rintro rfl
    simp [braced?]

theorem afterUrn?_eq_some_iff {cs rest : List Char} :
    afterUrn? cs = some rest ↔ ∃ mark, mark.map Char.toLower = urn ∧ cs = mark ++ rest := by
  constructor
  · intro read
    unfold afterUrn? at read
    split at read
    next same =>
      obtain rfl := Option.some.inj read
      exact ⟨_, same, (List.take_append_drop ..).symm⟩
    · cases read
  · rintro ⟨mark, same, rfl⟩
    have length : mark.length = urn.length := by rw [← same, List.length_map]
    rw [afterUrn?, List.take_left' length, List.drop_left' length, if_pos same]

/-- Texts of 32, 36, 38 and 45 characters can be spellings, each length in one way. -/
theorem spelled?_eq_some_iff {cs : List Char} {n : Nat} : spelled? cs = some n ↔
    plain? cs = some n ∨ grouped? cs = some n ∨ (braced? cs).bind grouped? = some n ∨
      (afterUrn? cs).bind grouped? = some n := by
  have plain (m : Nat) (read : plain? cs = some m) : cs.length = 32 := length_of_plain? read
  have grouped (m : Nat) (read : grouped? cs = some m) : cs.length = 36 := length_of_grouped? read
  have braced (m : Nat) (read : (braced? cs).bind grouped? = some m) : cs.length = 38 := by
    obtain ⟨inner, braces, groups⟩ := Option.bind_eq_some_iff.mp read
    rw [braced?_eq_some_iff.mp braces]
    simp [length_of_grouped? groups]
  have urn (m : Nat) (read : (afterUrn? cs).bind grouped? = some m) : cs.length = 45 := by
    obtain ⟨rest, behind, groups⟩ := Option.bind_eq_some_iff.mp read
    obtain ⟨mark, same, rfl⟩ := afterUrn?_eq_some_iff.mp behind
    rw [List.length_append, length_of_grouped? groups, ← List.length_map Char.toLower, same]
    rfl
  unfold spelled?
  cases p : plain? cs <;> cases g : grouped? cs <;> cases b : (braced? cs).bind grouped? <;>
    cases u : (afterUrn? cs).bind grouped? <;> simp <;> grind

theorem spelled?_lt {cs : List Char} {n : Nat} (read : spelled? cs = some n) : n < 2 ^ 128 := by
  obtain plain | grouped | braced | urn := spelled?_eq_some_iff.mp read
  · exact (plain?_eq_some_iff.mp plain).1
  · exact (grouped?_eq_some_iff.mp grouped).1
  · obtain ⟨inner, -, groups⟩ := Option.bind_eq_some_iff.mp braced
    exact (grouped?_eq_some_iff.mp groups).1
  · obtain ⟨rest, -, groups⟩ := Option.bind_eq_some_iff.mp urn
    exact (grouped?_eq_some_iff.mp groups).1

theorem spelled?_iff_spelling {cs : List Char} {id : Id role} :
    spelled? cs = some id.number.val ↔ Spelling id cs := by
  rw [spelled?_eq_some_iff]
  constructor
  · rintro (plain | grouped | braced | urn)
    · exact .plain (plain?_eq_some_iff.mp plain).2
    · exact .grouped (grouped?_chars_iff.mp grouped)
    · obtain ⟨inner, braces, groups⟩ := Option.bind_eq_some_iff.mp braced
      rw [braced?_eq_some_iff.mp braces]
      exact .braced (grouped?_chars_iff.mp groups)
    · obtain ⟨rest, behind, groups⟩ := Option.bind_eq_some_iff.mp urn
      obtain ⟨mark, same, rfl⟩ := afterUrn?_eq_some_iff.mp behind
      exact .urn (by rw [List.map_append, same, grouped?_chars_iff.mp groups])
  · intro spelling
    cases spelling with
    | plain same => exact .inl (plain?_eq_some_iff.mpr ⟨id.number.isLt, same⟩)
    | grouped same => exact .inr (.inl (grouped?_chars_iff.mpr same))
    | braced same =>
      refine .inr (.inr (.inl ?_))
      rw [braced?_eq_some_iff.mpr rfl]
      exact grouped?_chars_iff.mpr same
    | urn same =>
      obtain ⟨mark, rest, rfl, head, groups⟩ := List.map_eq_append_iff.mp same
      refine .inr (.inr (.inr ?_))
      rw [afterUrn?_eq_some_iff.mpr ⟨mark, head, rfl⟩]
      exact grouped?_chars_iff.mpr groups

/-- An identifier is read from its spellings, and from nothing else. -/
theorem parse_eq_ok_iff {cs : List Char} {id : Id role} : parse cs = .ok id ↔ Spelling id cs := by
  rw [← spelled?_iff_spelling]
  constructor
  · intro read
    unfold parse at read
    split at read
    next n spelled =>
      obtain rfl := Except.ok.inj read
      rw [spelled, ofNat, Fin.val_ofNat, Nat.mod_eq_of_lt (spelled?_lt spelled)]
    · cases read
  · intro spelled
    simp [parse, spelled, ofNat]

theorem lower_chars (id : Id role) : id.chars.map Char.toLower = id.chars := by
  simp only [chars, List.map_append, List.map_cons, Text.Hex.lower_digits, lower_hyphen.mpr rfl]

/-- An identifier is read from its own text. -/
theorem parse_chars (id : Id role) : parse id.chars = .ok id := parse_eq_ok_iff.mpr (.grouped id.lower_chars)

theorem length_chars (id : Id role) : id.chars.length = 36 := by
  simp [chars]

theorem chars_injective {a b : Id role} (same : a.chars = b.chars) : a = b := by
  have parsed := parse_chars a
  rw [same, parse_chars] at parsed
  exact (Except.ok.inj parsed).symm

end FeedFanout.Id
