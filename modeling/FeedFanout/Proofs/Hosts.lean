import FeedFanout.Proofs.Spelling
import FeedFanout.SocketAddress
import Mathlib.Data.List.Induction
import Mathlib.Data.List.TakeWhile

/-!
How addresses are written. A text that is written as an internet address, with a port behind it or not, is read as that
address, and no other text is read as one (`Ip.parse?_eq_some_iff`).
-/
namespace FeedFanout

/-- What is taken from the front as far as it goes, and the rest. -/
theorem takeWhile_iff {p : Char → Bool} {cs ds rest : List Char} :
    cs.takeWhile p = ds ∧ cs.drop ds.length = rest ↔
      cs = ds ++ rest ∧ (∀ c ∈ ds, p c = true) ∧ ∀ c ∈ rest.head?, p c = false := by
  constructor
  · rintro ⟨rfl, rfl⟩
    have whole := List.prefix_iff_eq_append.mp (@List.takeWhile_prefix _ cs p)
    have dropped : cs.drop (cs.takeWhile p).length = cs.dropWhile p :=
      List.append_cancel_left (whole.trans List.takeWhile_append_dropWhile.symm)
    refine ⟨whole.symm, fun c member => List.mem_takeWhile_imp member, ?_⟩
    rw [dropped]
    intro c first
    have stops := List.head?_dropWhile_not p cs
    rw [Option.mem_def.mp first] at stops
    exact stops
  · rintro ⟨rfl, all, stops⟩
    refine ⟨?_, List.drop_left⟩
    rw [List.takeWhile_append_of_pos all]
    cases rest with
    | nil => exact List.append_nil ds
    | cons c rest => rw [List.takeWhile_cons_of_neg (by simpa using stops c rfl), List.append_nil]

namespace Decimal

theorem digitValue?_eq (c : Char) : digitValue? c = if c.isDigit then some (c.toNat - 48) else none := by
  unfold digitValue?
  congr 1
  simp [Char.isDigit, Char.le_def]

theorem isSome_digitValue? (c : Char) : (digitValue? c).isSome = c.isDigit := by
  rw [digitValue?_eq]
  cases c.isDigit <;> rfl

/-- The text is a number in decimal digits, perhaps behind zeros. -/
def IsNumeral (n : Nat) (cs : List Char) : Prop :=
  cs ≠ [] ∧ (∀ c ∈ cs, c.isDigit = true) ∧ n = Nat.ofDigitChars 10 cs 0

theorem foldl_digits {cs : List Char} (digits : ∀ c ∈ cs, c.isDigit = true) (start : Nat) :
    cs.foldl (fun n c => n * 10 + (digitValue? c).getD 0) start = Nat.ofDigitChars 10 cs start := by
  induction cs generalizing start with
  | nil => rfl
  | cons c cs ih =>
    obtain ⟨first, digits⟩ := List.forall_mem_cons.mp digits
    rw [List.foldl_cons, ih digits, Nat.ofDigitChars_cons, digitValue?_eq, if_pos first, Nat.mul_comm]
    rfl

theorem isNumeral_toDigits (n : Nat) : IsNumeral n (Nat.toDigits 10 n) :=
  ⟨Nat.toDigits_ne_nil, fun _ member => Nat.isDigit_of_mem_toDigits (by decide) (by decide) member,
    (Nat.ofDigitChars_toDigits (by decide) (by decide)).symm⟩

theorem digitChar_toNat {c : Char} (digit : c.isDigit = true) :
    c.toNat - 48 < 10 ∧ Nat.digitChar (c.toNat - 48) = c := by
  have bounds : 48 ≤ c.toNat ∧ c.toNat ≤ 57 := by
    simpa [Char.isDigit, Char.le_def, UInt32.le_iff_toNat_le] using digit
  have small : c.toNat - 48 < 10 := by omega
  refine ⟨small, Char.toNat_inj.mp ?_⟩
  rw [Nat.toNat_digitChar_of_lt_ten small]
  omega

/-- Without zeros in front there is one way to write a number. -/
theorem IsNumeral.eq_toDigits {n : Nat} {cs : List Char} (numeral : IsNumeral n cs)
    (plain : cs.head? = some '0' → cs.length = 1) : cs = Nat.toDigits 10 n := by
  obtain ⟨full, digits, rfl⟩ := numeral
  induction cs using List.reverseRecOn with
  | nil => exact absurd rfl full
  | append_singleton cs c ih =>
    obtain ⟨earlier, last⟩ := List.forall_mem_append.mp digits
    obtain ⟨small, same⟩ := digitChar_toNat (last c (List.mem_singleton_self c))
    have one : Nat.toDigits 10 (c.toNat - 48) = [c] := by rw [Nat.toDigits_of_lt_base small, same]
    rw [Nat.ofDigitChars_append, Nat.ofDigitChars_cons, Nat.ofDigitChars_nil]
    by_cases first : cs = []
    · subst first
      exact one.symm.trans (congrArg (Nat.toDigits 10) (by simp))
    have plain' : cs.head? = some '0' → cs.length = 1 := by
      intro zero
      have single := plain (by rw [List.head?_append, zero]; rfl)
      rw [List.length_append, List.length_singleton] at single
      exact absurd (List.eq_nil_of_length_eq_zero (by omega)) first
    have before := ih plain' first earlier
    have positive : 0 < Nat.ofDigitChars 10 cs 0 := by
      refine Nat.pos_of_ne_zero fun zero => ?_
      rw [zero, Nat.toDigits_zero] at before
      have single := plain (by rw [before]; rfl)
      rw [before] at single
      cases single
    have whole := Nat.toDigits_append_toDigits (by decide) positive small
    rw [← before, one] at whole
    exact whole

theorem le_ofDigitChars (cs : List Char) (start : Nat) : start ≤ Nat.ofDigitChars 10 cs start := by
  induction cs generalizing start with
  | nil => exact Nat.le_refl _
  | cons c cs ih =>
    rw [Nat.ofDigitChars_cons]
    have later := ih (10 * start + (c.toNat - '0'.toNat))
    omega

theorem readDigits_eq_ok_iff {largest start n : Nat} {overflow : IntegerError} {cs : List Char}
    (digits : ∀ c ∈ cs, c.isDigit = true) (small : start ≤ largest) :
    readDigits largest overflow start cs = .ok n ↔ n = Nat.ofDigitChars 10 cs start ∧ n ≤ largest := by
  induction cs generalizing start with
  | nil =>
    constructor
    · rintro ⟨⟩
      exact ⟨rfl, small⟩
    · rintro ⟨rfl, -⟩
      rfl
  | cons c cs ih =>
    obtain ⟨first, digits⟩ := List.forall_mem_cons.mp digits
    rw [readDigits, digitValue?_eq, if_pos first, Nat.ofDigitChars_cons, Nat.mul_comm 10]
    dsimp only
    by_cases fits : start * 10 + (c.toNat - 48) ≤ largest
    · rw [if_pos fits]
      exact ih digits fits
    · rw [if_neg fits]
      refine ⟨nofun, ?_⟩
      rintro ⟨rfl, most⟩
      exact absurd (Nat.le_trans (le_ofDigitChars cs _) most) fits

theorem parseNat_eq_ok_iff {largest n : Nat} {cs : List Char} (digits : ∀ c ∈ cs, c.isDigit = true) :
    parseNat largest cs = .ok n ↔ IsNumeral n cs ∧ n ≤ largest := by
  have read := @readDigits_eq_ok_iff largest 0 n .tooLarge cs digits (Nat.zero_le largest)
  unfold parseNat
  split
  · exact ⟨nofun, fun both => absurd rfl both.1.1⟩
  · exact absurd (digits '+' (List.mem_singleton_self _)) (by decide)
  · exact absurd (digits '+' List.mem_cons_self) (by decide)
  · rename_i full _ _
    rw [read]
    exact ⟨fun both => ⟨⟨full, digits, both.1⟩, both.2⟩, fun both => ⟨both.1.2.2, both.2⟩⟩

end Decimal

namespace Address

/-! ### Octets -/

/-- The text is a number up to 255, without zeros in front. -/
def IsOctet (n : Nat) (cs : List Char) : Prop := n ≤ 255 ∧ cs = Nat.toDigits 10 n

/-- Octets with points between them. -/
inductive IsOctets : List Nat → List Char → Prop
  | one {n : Nat} {cs : List Char} (octet : IsOctet n cs) : IsOctets [n] cs
  | more {n : Nat} {ns : List Nat} {cs ds : List Char} (first : IsOctet n cs) (rest : IsOctets ns ds) :
      IsOctets (n :: ns) (cs ++ '.' :: ds)

theorem IsOctet.plain {n : Nat} {cs : List Char} (octet : IsOctet n cs) :
    cs.head? = some '0' → cs.length = 1 := by
  obtain ⟨small, rfl⟩ := octet
  have all : ∀ n < 256, (Nat.toDigits 10 n).head? = some '0' → (Nat.toDigits 10 n).length = 1 := by decide +kernel
  exact all n (Nat.lt_succ_of_le small)

theorem isOctet_iff {n : Nat} {cs : List Char} :
    IsOctet n cs ↔ Decimal.IsNumeral n cs ∧ n ≤ 255 ∧ (cs.head? = some '0' → cs.length = 1) := by
  constructor
  · intro octet
    obtain ⟨small, rfl⟩ := id octet
    exact ⟨Decimal.isNumeral_toDigits n, small, octet.plain⟩
  · rintro ⟨numeral, small, plain⟩
    exact ⟨small, numeral.eq_toDigits plain⟩

theorem readOctet_eq_some_iff {cs rest : List Char} {n : Nat} :
    readOctet cs = some (n, rest) ↔
      ∃ ds, cs = ds ++ rest ∧ IsOctet n ds ∧ ∀ c ∈ rest.head?, c.isDigit = false := by
  unfold readOctet
  simp only [Decimal.isSome_digitValue?]
  constructor
  · intro read
    split at read
    · cases read
    rename_i fits
    obtain ⟨rfl, rfl⟩ := Prod.mk.inj (Option.some.inj read)
    obtain ⟨whole, digits, stops⟩ := takeWhile_iff.mp ⟨rfl, rfl⟩
    refine ⟨_, whole, ?_, stops⟩
    rw [Decimal.foldl_digits digits] at fits ⊢
    have full : cs.takeWhile (fun c => c.isDigit) ≠ [] := fun empty => fits (.inl (by rw [empty]; rfl))
    refine isOctet_iff.mpr ⟨⟨full, digits, rfl⟩, by omega, ?_⟩
    intro zero
    have positive := List.length_pos_iff.mpr full
    have short : ¬1 < (cs.takeWhile fun c => c.isDigit).length := fun long => fits (.inr (.inr (.inr ⟨zero, long⟩)))
    omega
  · rintro ⟨ds, rfl, octet, stops⟩
    obtain ⟨⟨full, digits, rfl⟩, small, plain⟩ := isOctet_iff.mp octet
    obtain ⟨taken, left⟩ := takeWhile_iff.mpr ⟨rfl, digits, stops⟩
    have short : ds.length ≤ 3 := by
      rw [octet.2, Nat.length_toDigits_le_iff (by decide) (by decide)]
      omega
    rw [taken, left, Decimal.foldl_digits digits, if_neg]
    rintro (empty | long | large | ⟨zero, long⟩)
    · exact full (List.isEmpty_iff.mp empty)
    · omega
    · omega
    · rw [plain zero] at long
      exact absurd long (by decide)

theorem IsOctets.ne_nil {ns : List Nat} {cs : List Char} (octets : IsOctets ns cs) : ns ≠ [] := by
  cases octets <;> nofun

theorem readOctets_eq_some_iff {k : Nat} {cs rest : List Char} {ns : List Nat} :
    readOctets (k + 1) cs = some (ns, rest) ↔
      ∃ ds, cs = ds ++ rest ∧ IsOctets ns ds ∧ ns.length = k + 1 ∧ ∀ c ∈ rest.head?, c.isDigit = false := by
  induction k generalizing cs ns with
  | zero =>
    rw [readOctets, Option.map_eq_some_iff]
    constructor
    · rintro ⟨⟨n, rest⟩, read, same⟩
      obtain ⟨rfl, rfl⟩ := Prod.mk.inj same
      obtain ⟨ds, whole, octet, stops⟩ := readOctet_eq_some_iff.mp read
      exact ⟨ds, whole, .one octet, rfl, stops⟩
    · rintro ⟨ds, whole, octets, length, stops⟩
      cases octets with
      | one octet => exact ⟨_, readOctet_eq_some_iff.mpr ⟨ds, whole, octet, stops⟩, rfl⟩
      | more first rest => exact absurd (List.eq_nil_of_length_eq_zero (Nat.succ.inj length)) rest.ne_nil
  | succ k ih =>
    rw [readOctets]
    constructor
    · intro read
      split at read
      · rename_i n cs' first
        obtain ⟨⟨ns, rest⟩, later, same⟩ := Option.map_eq_some_iff.mp read
        obtain ⟨rfl, rfl⟩ := Prod.mk.inj same
        obtain ⟨ds, rfl, octet, -⟩ := readOctet_eq_some_iff.mp first
        obtain ⟨es, rfl, octets, length, stops⟩ := ih.mp later
        refine ⟨ds ++ '.' :: es, ?_, .more octet octets, congrArg Nat.succ length, stops⟩
        rw [List.append_assoc, List.cons_append]
      · cases read
    · rintro ⟨ds, rfl, octets, length, stops⟩
      cases octets with
      | one octet => cases length
      | @more n ns cs es octet octets =>
        have later := ih.mpr ⟨es, rfl, octets, Nat.succ.inj length, stops⟩
        have first : readOctet (cs ++ '.' :: (es ++ rest)) = some (n, '.' :: (es ++ rest)) :=
          readOctet_eq_some_iff.mpr ⟨cs, rfl, octet, by simp⟩
        rw [List.append_assoc, List.cons_append, first]
        change Option.map _ (readOctets (k + 1) (es ++ rest)) = _
        rw [later]
        rfl

/-! ### Groups -/

/-- The text is a number in one to four hexadecimal digits of either case. -/
def IsGroup (n : Nat) (cs : List Char) : Prop :=
  0 < cs.length ∧ cs.length ≤ 4 ∧ n < 16 ^ cs.length ∧ cs.map Char.toLower = Text.Hex.digits cs.length n

theorem read?_length_eq_some_iff {cs : List Char} {start n : Nat} :
    Text.Hex.read? cs.length start cs = some (n, []) ↔ (∀ c ∈ cs, (Text.Hex.value? c).isSome = true) ∧
      n = cs.foldl (fun n c => n * 16 + (Text.Hex.value? c).getD 0) start := by
  induction cs generalizing start with
  | nil =>
    constructor
    · rintro ⟨⟩
      exact ⟨List.forall_mem_nil _, rfl⟩
    · rintro ⟨-, rfl⟩
      rfl
  | cons c cs ih =>
    rw [List.length_cons, Text.Hex.read?, List.foldl_cons, List.forall_mem_cons]
    cases value : Text.Hex.value? c with
    | none =>
      constructor
      · intro read
        cases read
      · rintro ⟨⟨digit, -⟩, -⟩
        cases digit
    | some d =>
      rw [Option.getD_some, Nat.mul_comm start]
      simpa using ih

theorem isGroup_iff {n : Nat} {cs : List Char} :
    IsGroup n cs ↔ 0 < cs.length ∧ cs.length ≤ 4 ∧ (∀ c ∈ cs, (Text.Hex.value? c).isSome = true) ∧
      n = cs.foldl (fun n c => n * 16 + (Text.Hex.value? c).getD 0) 0 := by
  refine and_congr_right fun _ => and_congr_right fun _ => ?_
  have spelled : n < 16 ^ cs.length ∧ cs.map Char.toLower = Text.Hex.digits cs.length n ↔
      Text.Hex.read? cs.length 0 cs = some (n, []) := by
    rw [Text.Hex.read?_eq_some_iff, Nat.div_eq_zero_iff_lt (Nat.pow_pos (by decide))]
    simp
  rw [spelled, read?_length_eq_some_iff]

theorem readGroup_eq_some_iff {cs rest : List Char} {n : Nat} :
    readGroup cs = some (n, rest) ↔
      ∃ ds, cs = ds ++ rest ∧ IsGroup n ds ∧ ∀ c ∈ rest.head?, (Text.Hex.value? c).isSome = false := by
  unfold readGroup
  dsimp only
  constructor
  · intro read
    split at read
    · cases read
    rename_i fits
    obtain ⟨rfl, rfl⟩ := Prod.mk.inj (Option.some.inj read)
    obtain ⟨whole, digits, stops⟩ := takeWhile_iff.mp ⟨rfl, rfl⟩
    refine ⟨_, whole, isGroup_iff.mpr ⟨?_, by omega, digits, rfl⟩, stops⟩
    refine List.length_pos_iff.mpr fun empty => fits (.inl ?_)
    rw [empty]
    rfl
  · rintro ⟨ds, rfl, group, stops⟩
    obtain ⟨full, short, digits, rfl⟩ := isGroup_iff.mp group
    obtain ⟨taken, left⟩ := takeWhile_iff.mpr ⟨rfl, digits, stops⟩
    rw [taken, left, if_neg]
    rintro (empty | long)
    · exact List.length_pos_iff.mp full (List.isEmpty_iff.mp empty)
    · omega

/-- Groups with colons between them. The last two may be written as octets. -/
inductive IsGroups : Bool → List Nat → List Char → Prop
  | one {n : Nat} {cs : List Char} (group : IsGroup n cs) : IsGroups false [n] cs
  | octets {a b c d : Nat} {cs : List Char} (four : IsOctets [a, b, c, d] cs) :
      IsGroups true [a * 256 + b, c * 256 + d] cs
  | more {dotted : Bool} {n : Nat} {ns : List Nat} {cs ds : List Char} (first : IsGroup n cs)
      (rest : IsGroups dotted ns ds) : IsGroups dotted (n :: ns) (cs ++ ':' :: ds)

theorem readPair_eq_some_iff {cs rest : List Char} {pair : List Nat} :
    readPair cs = some (pair, rest) ↔ ∃ a b c d ds, pair = [a * 256 + b, c * 256 + d] ∧ cs = ds ++ rest ∧
      IsOctets [a, b, c, d] ds ∧ ∀ c ∈ rest.head?, c.isDigit = false := by
  unfold readPair
  constructor
  · intro read
    split at read
    · rename_i a b c d rest first
      cases read
      obtain ⟨ds, whole, octets, -, stops⟩ := readOctets_eq_some_iff.mp first
      exact ⟨a, b, c, d, ds, rfl, whole, octets, stops⟩
    · cases read
  · rintro ⟨a, b, c, d, ds, rfl, whole, octets, stops⟩
    have four : readOctets 4 cs = some ([a, b, c, d], rest) :=
      readOctets_eq_some_iff.mpr ⟨ds, whole, octets, rfl, stops⟩
    rw [four]

/-- A text that can stand behind an address: it starts with nothing that would be read on. -/
structure Stops (rest : List Char) : Prop where
  digits : ∀ c ∈ rest.head?, (Text.Hex.value? c).isSome = false
  point : rest.head? ≠ some '.'
  groups : ∀ first limit, readGroups first limit rest = ([], false, rest)

theorem isSome_value?_of_isDigit {c : Char} (digit : c.isDigit = true) : (Text.Hex.value? c).isSome = true := by
  have bounds : 48 ≤ c.toNat ∧ c.toNat ≤ 57 := by
    simpa [Char.isDigit, Char.le_def, UInt32.le_iff_toNat_le] using digit
  simp only [Text.Hex.value?, if_pos bounds]
  rfl

/-- A group is no octet. -/
theorem readPair_group {n : Nat} {cs rest : List Char} (group : IsGroup n cs)
    (digits : ∀ c ∈ rest.head?, (Text.Hex.value? c).isSome = false) (point : rest.head? ≠ some '.') :
    readPair (cs ++ rest) = none := by
  obtain ⟨-, -, hex, -⟩ := isGroup_iff.mp group
  cases read : readPair (cs ++ rest) with
  | none => rfl
  | some found =>
    obtain ⟨pair, left⟩ := found
    obtain ⟨a, b, c, d, ds, -, whole, octets, -⟩ := readPair_eq_some_iff.mp read
    cases octets with
    | @more _ _ os ds first others =>
      -- The digits end where the first point is.
      obtain ⟨⟨-, decimal, -⟩, -⟩ := isOctet_iff.mp first
      rw [List.append_assoc, List.cons_append] at whole
      have here := takeWhile_iff.mpr ⟨rfl, hex, digits⟩
      have there := @takeWhile_iff _ (os ++ '.' :: (ds ++ left)) os ('.' :: (ds ++ left)) |>.mpr
        ⟨rfl, fun c member => isSome_value?_of_isDigit (decimal c member), by simp +decide⟩
      rw [whole] at here
      obtain rfl := here.1.symm.trans there.1
      exact absurd (congrArg List.head? (here.2.symm.trans there.2)) point

/-- A text with a colon in front, unless it is the first. -/
def behind (first : Bool) (cs : List Char) : List Char := if first then cs else ':' :: cs

theorem behind_append (first : Bool) (cs ds : List Char) : behind first (cs ++ ds) = behind first cs ++ ds := by
  cases first <;> rfl

theorem readGroups_behind (first : Bool) (limit : Nat) (cs : List Char) :
    readGroups first (limit + 1) (behind first cs) =
      match (if 1 ≤ limit then readPair cs else none) with
      | some (pair, rest) => (pair, true, rest)
      | none =>
        match readGroup cs with
        | none => ([], false, behind first cs)
        | some (group, rest) =>
          (group :: (readGroups false limit rest).1, (readGroups false limit rest).2) := by
  cases first <;> rfl

theorem readGroups_none {cs : List Char} (other : cs.head? ≠ some ':') (limit : Nat) :
    readGroups false limit cs = ([], false, cs) := by
  cases limit with
  | zero => rfl
  | succ limit =>
    unfold readGroups
    simp only [Bool.false_eq_true, if_false]
    split
    · rfl
    · rename_i inner entry
      split at entry
      · exact absurd rfl other
      · cases entry

/-- Groups behind one another are read as far as they go. -/
theorem readGroups_sound {first : Bool} {limit : Nat} {cs rest : List Char} {ns : List Nat} {dotted : Bool}
    (read : readGroups first limit cs = (ns, dotted, rest)) :
    (ns = [] ∧ dotted = false ∧ rest = cs) ∨
      ∃ ds, IsGroups dotted ns ds ∧ ns.length ≤ limit ∧ cs = behind first ds ++ rest := by
  induction limit generalizing first cs ns dotted rest with
  | zero =>
    cases read
    exact .inl ⟨rfl, rfl, rfl⟩
  | succ limit ih =>
    obtain ⟨inner, rfl⟩ | ⟨rfl, other⟩ : (∃ inner, cs = behind first inner) ∨ first = false ∧ cs.head? ≠ some ':' := by
      cases first with
      | true => exact .inl ⟨cs, rfl⟩
      | false =>
        by_cases colon : cs.head? = some ':'
        · obtain ⟨inner, rfl⟩ := List.head?_eq_some_iff.mp colon
          exact .inl ⟨inner, rfl⟩
        · exact .inr ⟨rfl, colon⟩
    · rw [readGroups_behind] at read
      split at read
      · rename_i pair rest' found
        cases read
        split at found
        · obtain ⟨a, b, c, d, ds, rfl, rfl, octets, -⟩ := readPair_eq_some_iff.mp found
          refine .inr ⟨ds, .octets octets, ?_, behind_append ..⟩
          simp only [List.length_cons, List.length_nil]
          omega
        · cases found
      · split at read
        · cases read
          exact .inl ⟨rfl, rfl, rfl⟩
        · rename_i n left found
          obtain ⟨rfl, tail⟩ := Prod.mk.inj read
          obtain ⟨ds, rfl, group, -⟩ := readGroup_eq_some_iff.mp found
          have more : readGroups false limit left = ((readGroups false limit left).1, dotted, rest) := Prod.ext rfl tail
          obtain ⟨none, rfl, rfl⟩ | ⟨es, groups, room, rfl⟩ := ih more
          · rw [none]
            exact .inr ⟨ds, .one group, by simp, behind_append ..⟩
          · refine .inr ⟨ds ++ ':' :: es, .more group groups, Nat.succ_le_succ room, ?_⟩
            have whole : ds ++ (behind false es ++ rest) = (ds ++ ':' :: es) ++ rest := (List.append_assoc ..).symm
            rw [whole, behind_append]
    · rw [readGroups_none other] at read
      cases read
      exact .inl ⟨rfl, rfl, rfl⟩

theorem readGroups_complete {dotted : Bool} {ns : List Nat} {ds : List Char} (groups : IsGroups dotted ns ds)
    {limit : Nat} (room : ns.length ≤ limit) {rest : List Char} (stops : Stops rest) (first : Bool) :
    readGroups first limit (behind first (ds ++ rest)) = (ns, dotted, rest) := by
  induction groups generalizing limit first with
  | @one n cs group =>
    obtain ⟨limit, rfl⟩ := Nat.exists_eq_add_one.mpr room
    have pair : (if 1 ≤ limit then readPair (cs ++ rest) else none) = none := by
      rw [readPair_group group stops.digits stops.point, ite_self]
    have read := readGroup_eq_some_iff.mpr ⟨cs, rfl, group, stops.digits⟩
    rw [readGroups_behind, pair, read]
    simp only [stops.groups]
  | @octets a b c d cs four =>
    simp only [List.length_cons, List.length_nil] at room
    obtain ⟨limit, rfl⟩ := Nat.exists_eq_add_one.mpr (Nat.lt_of_lt_of_le (by decide) room)
    have undotted : ∀ c ∈ rest.head?, c.isDigit = false := by
      intro c head
      have other := stops.digits c head
      exact Bool.eq_false_iff.mpr fun digit => by simp [isSome_value?_of_isDigit digit] at other
    have pair := readPair_eq_some_iff.mpr ⟨a, b, c, d, cs, rfl, rfl, four, undotted⟩
    rw [readGroups_behind, if_pos (by omega), pair]
  | @more dotted n ns cs ds group later ih =>
    obtain ⟨limit, rfl⟩ := Nat.exists_eq_add_one.mpr (Nat.lt_of_lt_of_le (Nat.succ_pos _) room)
    have colon : ∀ c ∈ (':' :: (ds ++ rest)).head?, (Text.Hex.value? c).isSome = false := by simp +decide
    have pair : (if 1 ≤ limit then readPair (cs ++ ':' :: (ds ++ rest)) else none) = none := by
      rw [readPair_group group colon (by simp), ite_self]
    have read := readGroup_eq_some_iff.mpr ⟨cs, rfl, group, colon⟩
    have others : readGroups false limit (':' :: (ds ++ rest)) = (ns, dotted, rest) :=
      ih (Nat.le_of_succ_le_succ room) false
    rw [List.append_assoc, List.cons_append, readGroups_behind, pair, read]
    simp only [others]

/-! ### Whole addresses -/

/-- Some groups or none at all. -/
def Perhaps (dotted : Bool) (ns : List Nat) (cs : List Char) : Prop := ns = [] ∧ cs = [] ∨ IsGroups dotted ns cs

/-- The text is eight groups, of which some zeros may be left out between two colons. -/
inductive IsIpv6 : List Nat → List Char → Prop
  | whole {dotted : Bool} {groups : List Nat} {cs : List Char} (all : IsGroups dotted groups cs)
      (eight : groups.length = 8) : IsIpv6 groups cs
  | short {dotted : Bool} {head tail : List Nat} {cs ds : List Char} (front : Perhaps false head cs)
      (back : Perhaps dotted tail ds) (room : head.length + tail.length < 8) :
      IsIpv6 (head ++ List.replicate (8 - head.length - tail.length) 0 ++ tail) (cs ++ ':' :: ':' :: ds)

theorem perhaps_of_readGroups {limit : Nat} {cs rest : List Char} {ns : List Nat} {dotted : Bool}
    (read : readGroups true limit cs = (ns, dotted, rest)) :
    ∃ ds, Perhaps dotted ns ds ∧ ns.length ≤ limit ∧ cs = ds ++ rest := by
  obtain ⟨rfl, -, rfl⟩ | ⟨ds, groups, room, whole⟩ := readGroups_sound read
  · exact ⟨[], .inl ⟨rfl, rfl⟩, Nat.zero_le _, rfl⟩
  · exact ⟨ds, .inr groups, room, whole⟩

theorem readIpv6_sound {cs rest : List Char} {groups : List Nat} (read : readIpv6 cs = some (groups, rest)) :
    ∃ ds, cs = ds ++ rest ∧ IsIpv6 groups ds := by
  unfold readIpv6 at read
  rcases front : readGroups true 8 cs with ⟨head, octets, left⟩
  rw [front] at read
  dsimp only at read
  obtain ⟨ds, written, most, rfl⟩ := perhaps_of_readGroups front
  split at read
  · rename_i eight
    cases read
    obtain ⟨rfl, -⟩ | all := written
    · cases eight
    · exact ⟨ds, rfl, .whole all eight⟩
  split at read
  · cases read
  rename_i fewer plain
  obtain rfl : octets = false := by simpa using plain
  split at read
  · rename_i after
    rcases back : readGroups true (7 - head.length) after with ⟨tail, dotted, rest'⟩
    rw [back] at read
    cases read
    obtain ⟨es, written', room, rfl⟩ := perhaps_of_readGroups back
    have fits : head.length + tail.length < 8 := by omega
    exact ⟨ds ++ ':' :: ':' :: es, by simp, .short written written' fits⟩
  · cases read

/-- Nothing is read where no digit stands. -/
theorem readGroups_stop {c : Char} (other : (Text.Hex.value? c).isSome = false) (cs : List Char) (first : Bool)
    (limit : Nat) : readGroups first limit (behind first (c :: cs)) = ([], false, behind first (c :: cs)) := by
  have undigit : c.isDigit = false :=
    Bool.eq_false_iff.mpr fun digit => by simp [isSome_value?_of_isDigit digit] at other
  have octet : readOctet (c :: cs) = none := by simp [readOctet, Decimal.isSome_digitValue?, undigit]
  have group : readGroup (c :: cs) = none := by simp [readGroup, other]
  have pair : readPair (c :: cs) = none := by simp [readPair, readOctets, octet]
  cases limit with
  | zero => rfl
  | succ limit => rw [readGroups_behind, pair, ite_self, group]

theorem stops_colons (ds : List Char) : Stops (':' :: ':' :: ds) := by
  refine ⟨by simp +decide, by simp, ?_⟩
  intro first limit
  cases first with
  | true => exact readGroups_stop (by decide) _ true limit
  | false => exact readGroups_stop (by decide) ds false limit

theorem stops_mark {c : Char} (mark : c = '%' ∨ c = ']') (ds : List Char) : Stops (c :: ds) := by
  have other : (Text.Hex.value? c).isSome = false ∧ c ≠ '.' ∧ c ≠ ':' := by
    obtain rfl | rfl := mark <;> decide
  refine ⟨by simpa using other.1, by simpa using other.2.1, ?_⟩
  intro first limit
  cases first with
  | true => exact readGroups_stop other.1 _ true limit
  | false => exact readGroups_none (by simpa using other.2.2) limit

theorem Perhaps.read {dotted : Bool} {ns : List Nat} {ds : List Char} (perhaps : Perhaps dotted ns ds) {limit : Nat}
    (room : ns.length ≤ limit) {rest : List Char} (stops : Stops rest) :
    ∃ octets, readGroups true limit (ds ++ rest) = (ns, octets, rest) ∧ (dotted = false → octets = false) := by
  obtain ⟨rfl, rfl⟩ | groups := perhaps
  · exact ⟨false, stops.groups true limit, fun _ => rfl⟩
  · exact ⟨dotted, readGroups_complete groups room stops true, id⟩

theorem readIpv6_complete {ds : List Char} {groups : List Nat} (written : IsIpv6 groups ds) {c : Char}
    (mark : c = '%' ∨ c = ']') (rest : List Char) : readIpv6 (ds ++ c :: rest) = some (groups, c :: rest) := by
  unfold readIpv6
  cases written with
  | whole all eight =>
    have front : readGroups true 8 (ds ++ c :: rest) = _ :=
      readGroups_complete all (Nat.le_of_eq eight) (stops_mark mark rest) true
    rw [front]
    exact if_pos eight
  | @short dotted head tail cs ds front back room =>
    have most : head.length ≤ 8 := by omega
    obtain ⟨octets, first, plain⟩ := front.read most (stops_colons (ds ++ c :: rest))
    obtain rfl := plain rfl
    obtain ⟨octets', second, -⟩ := back.read (by omega : tail.length ≤ 7 - head.length) (stops_mark mark rest)
    rw [List.append_assoc, List.cons_append, List.cons_append, first]
    dsimp only
    rw [if_neg (by omega), if_neg (by decide)]
    simp only [second]

end Address

namespace Ip

/-! ### Hosts and socket addresses -/

/-- The text of a scope is a percent sign and a number, or nothing. -/
inductive IsScope : Nat → List Char → Prop
  | none : IsScope 0 []
  | number {n : Nat} {cs : List Char} (numeral : Decimal.IsNumeral n cs) (small : n < 2 ^ 32) : IsScope n ('%' :: cs)

/-- The text is four octets, or an address of eight groups in brackets, with or without a scope. -/
inductive IsHost : Ip → List Char → Prop
  | v4 {octets : List Nat} {cs : List Char} (four : octets.length = 4) (written : Address.IsOctets octets cs) :
      IsHost (.v4 octets) cs
  | v6 {groups : List Nat} {scope : Nat} {cs ds : List Char} (written : Address.IsIpv6 groups cs)
      (zone : IsScope scope ds) : IsHost (.v6 groups scope) ('[' :: (cs ++ ds ++ [']']))

theorem scope?_eq_some_iff {cs rest : List Char} {n : Nat} :
    scope? cs = some (n, ']' :: rest) ↔ ∃ ds, cs = ds ++ ']' :: rest ∧ IsScope n ds := by
  constructor
  · intro read
    unfold scope? at read
    simp only [Decimal.isSome_digitValue?] at read
    split at read
    · rename_i cs
      split at read
      · rename_i scope parsed
        obtain ⟨rfl, left⟩ := Prod.mk.inj (Option.some.inj read)
        obtain ⟨whole, digits, -⟩ := takeWhile_iff.mp ⟨rfl, left⟩
        obtain ⟨numeral, small⟩ := (Decimal.parseNat_eq_ok_iff digits).mp parsed
        exact ⟨'%' :: cs.takeWhile (fun c => c.isDigit), congrArg _ whole, .number numeral (Nat.lt_succ_of_le small)⟩
      · cases read
    · cases read
      exact ⟨[], rfl, .none⟩
  · rintro ⟨ds, rfl, scope⟩
    cases scope with
    | none => rfl
    | @number n cs numeral small =>
      have digits := numeral.2.1
      have parsed := (Decimal.parseNat_eq_ok_iff digits).mpr ⟨numeral, Nat.le_of_lt_succ small⟩
      have stops : ∀ c ∈ (']' :: rest).head?, c.isDigit = false := by simp +decide
      obtain ⟨taken, left⟩ := takeWhile_iff.mpr ⟨rfl, digits, stops⟩
      change scope? ('%' :: (cs ++ ']' :: rest)) = _
      unfold scope?
      simp only [Decimal.isSome_digitValue?, taken, left]
      rw [parsed]

theorem parse?_eq_some_iff {host : String} {ip : Ip} : parse? host = some ip ↔ IsHost ip host.toList := by
  unfold parse?
  constructor
  · intro read
    split at read
    · rename_i cs bracket
      split at read
      · cases read
      rename_i groups left six
      split at read
      · rename_i scope zone
        cases read
        obtain ⟨ds, rfl, written⟩ := Address.readIpv6_sound six
        obtain ⟨es, rfl, isScope⟩ := scope?_eq_some_iff.mp zone
        rw [bracket, ← List.append_assoc]
        exact .v6 written isScope
      · cases read
    · split at read
      · rename_i octets four
        cases read
        obtain ⟨ds, whole, written, length, -⟩ := Address.readOctets_eq_some_iff.mp four
        rw [whole, List.append_nil]
        exact .v4 length written
      · cases read
  · intro written
    generalize host.toList = cs at written
    cases written with
    | @v4 octets cs length written =>
      have four : Address.readOctets 4 cs = some (octets, []) :=
        Address.readOctets_eq_some_iff.mpr ⟨cs, (List.append_nil cs).symm, written, length, nofun⟩
      split
      · -- No octet starts with a bracket.
        simp [Address.readOctets, Address.readOctet, Decimal.digitValue?] at four
      · rw [four]
    | @v6 groups scope cs ds written zone =>
      obtain ⟨c, rest, mark, same⟩ : ∃ c rest, (c = '%' ∨ c = ']') ∧ ds ++ [']'] = c :: rest := by
        cases zone with
        | none => exact ⟨']', [], .inr rfl, rfl⟩
        | number => exact ⟨'%', _, .inl rfl, rfl⟩
      have six : Address.readIpv6 (cs ++ ds ++ [']']) = some (groups, ds ++ [']']) := by
        rw [List.append_assoc, same]
        exact Address.readIpv6_complete written mark rest
      have left : scope? (ds ++ [']']) = some (scope, [']']) := scope?_eq_some_iff.mpr ⟨ds, rfl, zone⟩
      simp only [six, left]

end Ip

/-- Of two texts that are the same, what stands before the last mark is the same, and what stands behind it. -/
theorem append_cons_inj_of_last {xs ys us vs : List Char} {mark : Char} (free : mark ∉ us) (free' : mark ∉ vs)
    (same : xs ++ mark :: us = ys ++ mark :: vs) : xs = ys ∧ us = vs := by
  obtain ⟨zs, split, rest⟩ | ⟨zs, split, rest⟩ := List.append_eq_append_iff.mp same
  · cases zs with
    | nil => exact ⟨by simpa using split.symm, (List.cons.inj rest).2⟩
    | cons z zs => exact absurd ((List.cons.inj rest).2 ▸ by simp) free
  · cases zs with
    | nil => exact ⟨by simpa using split, (List.cons.inj rest).2.symm⟩
    | cons z zs => exact absurd ((List.cons.inj rest).2 ▸ by simp) free'

namespace SocketAddress

/-- The text is a host, a colon, and a port of at most 16 bits. -/
inductive Written : List Char → SocketAddress → Prop
  | mk {ip : Ip} {port : Nat} {cs ds : List Char} (host : Ip.IsHost ip cs) (numeral : Decimal.IsNumeral port ds)
      (small : port < 2 ^ 16) : Written (cs ++ ':' :: ds) ⟨ip, port⟩

/-- Whatever the host, its text does not bring a port of its own. -/
theorem written_iff {host : String} {port : Nat} (small : port < 2 ^ 16) {a : SocketAddress} :
    Written s!"{host}:{port}".toList a ↔ Ip.parse? host = some a.ip ∧ a.port = port := by
  have text : s!"{host}:{port}".toList = host.toList ++ ':' :: Nat.toDigits 10 port := by
    simp [String.toList_append, toString]
  have uncolon : ∀ {n : Nat} {ds : List Char}, Decimal.IsNumeral n ds → ':' ∉ ds :=
    fun numeral member => absurd (numeral.2.1 ':' member) (by decide)
  rw [text, Ip.parse?_eq_some_iff]
  constructor
  · intro written
    generalize whole : host.toList ++ ':' :: Nat.toDigits 10 port = cs at written
    cases written with
    | mk isHost numeral low =>
      obtain ⟨rfl, rfl⟩ := append_cons_inj_of_last (uncolon (Decimal.isNumeral_toDigits port)) (uncolon numeral) whole
      refine ⟨isHost, ?_⟩
      rw [numeral.2.2, ← (Decimal.isNumeral_toDigits port).2.2]
  · rintro ⟨isHost, rfl⟩
    exact .mk isHost (Decimal.isNumeral_toDigits a.port) small

end SocketAddress
end FeedFanout
