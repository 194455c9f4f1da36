import FeedFanout.Json.Skip
import FeedFanout.Proofs.Spelling

/-!
Texts in JSON. Between its quotes a text is written in many ways (`Spells`): most characters may stand for themselves,
and all may be escaped. The reader understands every one of these ways (`Spells.readFrom?`), and of what the grammar
admits it refuses only what spells no text (`IsBody.read?_eq_some_iff`), which is where surrogates do not come in
pairs.
-/
namespace FeedFanout.Json

/-! ### How characters are written -/

/-- The letters that make an escape with a backslash before them, and what it stands for. -/
def letters : List (Char × Char) :=
  [('"', '"'), ('\\', '\\'), ('/', '/'), ('b', '\x08'), ('f', '\x0c'), ('n', '\n'), ('r', '\r'), ('t', '\t')]

/-- Four digits of a UTF-16 unit. -/
def IsUnit (unit : Nat) (digits : List Char) : Prop :=
  unit < 16 ^ 4 ∧ digits.map Char.toLower = Text.Hex.digits 4 unit

/-- A character may stand for itself. -/
def IsPlain (c : Char) : Prop := 32 ≤ c.toNat ∧ c ≠ '"' ∧ c ≠ '\\'

/-- What the grammar admits between the quotes of a text. -/
inductive IsBody : List Char → Prop
  | nil : IsBody []
  | plain {c : Char} {body : List Char} (plain : IsPlain c) (rest : IsBody body) : IsBody (c :: body)
  | letter {letter c : Char} {body : List Char} (known : (letter, c) ∈ letters) (rest : IsBody body) :
      IsBody ('\\' :: letter :: body)
  | unit {unit : Nat} {digits body : List Char} (written : IsUnit unit digits) (rest : IsBody body) :
      IsBody ('\\' :: 'u' :: (digits ++ body))

/-- The UTF-16 form of a character beyond the first 65536. -/
def surrogates (c : Char) : Nat × Nat := (0xD800 + (c.toNat - 0x10000) / 0x400, 0xDC00 + (c.toNat - 0x10000) % 0x400)

/-- What is written between quotes stands for the text. -/
inductive Spells : List Char → List Char → Prop
  | nil : Spells [] []
  | plain {c : Char} {cs body : List Char} (plain : IsPlain c) (rest : Spells cs body) : Spells (c :: cs) (c :: body)
  | letter {letter c : Char} {cs body : List Char} (known : (letter, c) ∈ letters) (rest : Spells cs body) :
      Spells (c :: cs) ('\\' :: letter :: body)
  | unit {c : Char} {cs digits body : List Char} (written : IsUnit c.toNat digits) (rest : Spells cs body) :
      Spells (c :: cs) ('\\' :: 'u' :: (digits ++ body))
  | pair {c : Char} {cs high low body : List Char} (beyond : 0x10000 ≤ c.toNat)
      (first : IsUnit (surrogates c).1 high) (second : IsUnit (surrogates c).2 low) (rest : Spells cs body) :
      Spells (c :: cs) ('\\' :: 'u' :: (high ++ '\\' :: 'u' :: (low ++ body)))

theorem Spells.isBody {cs body : List Char} (spells : Spells cs body) : IsBody body := by
  induction spells with
  | nil => exact .nil
  | plain plain _ ih => exact .plain plain ih
  | letter known _ ih => exact .letter known ih
  | unit written _ ih => exact .unit written ih
  | pair _ first second _ ih => exact .unit first (.unit second ih)

/-! ### Reading -/

namespace Text
open FeedFanout.Text (Hex.value? Hex.digit Hex.digits Hex.value?_eq_some_iff)
variable {before : List Char} {rest : Input}

theorem readFrom?_plain {c : Char} (plain : IsPlain c) (high : Option Nat) :
    readFrom? high before (some c :: rest) = if high.isSome then none else readFrom? none (c :: before) rest := by
  obtain ⟨visible, quote, back⟩ := plain
  rw [readFrom?]
  · simp [Nat.not_lt.mpr visible, quote, back]
  · simp [back]
  · simp [back]

theorem readFrom?_letter {letter c : Char} (known : (letter, c) ∈ letters) (high : Option Nat) :
    readFrom? high before (some '\\' :: some letter :: rest) =
      if high.isSome then none else readFrom? none (c :: before) rest := by
  have all : ∀ pair ∈ letters, unescape? pair.1 = some pair.2 ∧ pair.1 ≠ 'u' := by decide
  obtain ⟨unescaped, other⟩ : unescape? letter = some c ∧ letter ≠ 'u' := all _ known
  rw [readFrom?.eq_def]
  split
  next same =>
    simp only [List.cons.injEq, Option.some.injEq, true_and] at same
    exact absurd same.1 other
  next same =>
    simp only [List.cons.injEq, Option.some.injEq, true_and] at same
    obtain ⟨rfl, rfl⟩ := same
    rw [unescaped]
    cases high <;> rfl
  next apart same =>
    simp only [List.cons.injEq, Option.some.injEq] at same
    obtain ⟨rfl, rfl⟩ := same
    exact (apart _ _ rfl rfl).elim
  next apart _ => exact (apart _ _ rfl).elim

/-- A unit has four digits. -/
theorem four_digits {unit : Nat} {digits : List Char} (written : IsUnit unit digits) :
    ∃ a b c d, digits = [a, b, c, d] ∧ Hex.value? a = some (unit / 16 / 16 / 16 % 16) ∧
      Hex.value? b = some (unit / 16 / 16 % 16) ∧ Hex.value? c = some (unit / 16 % 16) ∧
      Hex.value? d = some (unit % 16) := by
  have value {c : Char} {n : Nat} (lower : c.toLower = Hex.digit (n % 16)) : Hex.value? c = some (n % 16) :=
    Hex.value?_eq_some_iff.mpr ⟨Nat.mod_lt n (by decide), lower⟩
  have same := written.2
  simp only [Hex.digits, List.nil_append, List.cons_append] at same
  obtain ⟨a, _, rfl, first, same⟩ := List.map_eq_cons_iff.mp same
  obtain ⟨b, _, rfl, second, same⟩ := List.map_eq_cons_iff.mp same
  obtain ⟨c, _, rfl, third, same⟩ := List.map_eq_cons_iff.mp same
  obtain ⟨d, _, rfl, fourth, same⟩ := List.map_eq_cons_iff.mp same
  obtain rfl := List.map_eq_nil_iff.mp same
  exact ⟨a, b, c, d, rfl, value first, value second, value third, value fourth⟩

/-- The digits of a unit are read as the unit. -/
theorem unit?_digits {unit : Nat} {digits : List Char} (written : IsUnit unit digits) :
    ∃ a b c d, digits = [a, b, c, d] ∧ unit? (some a) (some b) (some c) (some d) = some unit := by
  obtain ⟨a, b, c, d, rfl, first, second, third, fourth⟩ := four_digits written
  have small := written.1
  refine ⟨a, b, c, d, rfl, ?_⟩
  simp only [unit?, first, second, third, fourth, bind, Option.bind_some, pure, Option.some.injEq]
  omega

theorem readFrom?_unit {unit : Nat} {digits : List Char} (written : IsUnit unit digits) :
    readFrom? none before (some '\\' :: some 'u' :: (digits.map some ++ rest)) =
      if isHigh unit then readFrom? (some unit) before rest
      else if isLow unit then none
      else readFrom? none (Char.ofNat unit :: before) rest := by
  obtain ⟨a, b, c, d, rfl, value⟩ := unit?_digits written
  simp [readFrom?, value]

/-- A second unit behind the first of a pair. -/
theorem readFrom?_second {first unit : Nat} {digits : List Char} (written : IsUnit unit digits) :
    readFrom? (some first) before (some '\\' :: some 'u' :: (digits.map some ++ rest)) =
      if isLow unit then readFrom? none (paired first unit :: before) rest else none := by
  obtain ⟨a, b, c, d, rfl, value⟩ := unit?_digits written
  simp [readFrom?, value]

end Text

theorem isHigh_iff {unit : Nat} : Text.isHigh unit = true ↔ 0xD800 ≤ unit ∧ unit ≤ 0xDBFF := by simp [Text.isHigh]

theorem isLow_iff {unit : Nat} : Text.isLow unit = true ↔ 0xDC00 ≤ unit ∧ unit ≤ 0xDFFF := by simp [Text.isLow]

/-- No half of a pair is a character. -/
theorem not_half (c : Char) : Text.isHigh c.toNat = false ∧ Text.isLow c.toNat = false := by
  have valid : c.toNat < 0xD800 ∨ 0xDFFF < c.toNat ∧ c.toNat < 0x110000 := c.valid
  rw [Bool.eq_false_iff, Bool.eq_false_iff, ne_eq, ne_eq, isHigh_iff, isLow_iff]
  omega

theorem toNat_ofNat {n : Nat} (valid : n.isValidChar) : (Char.ofNat n).toNat = n := by
  rw [Char.ofNat, dif_pos valid]
  rfl

theorem surrogates_paired {c : Char} (beyond : 0x10000 ≤ c.toNat) :
    Text.isHigh (surrogates c).1 = true ∧ Text.isLow (surrogates c).2 = true ∧
      Text.paired (surrogates c).1 (surrogates c).2 = c := by
  have valid : c.toNat < 0xD800 ∨ 0xDFFF < c.toNat ∧ c.toNat < 0x110000 := c.valid
  have number : 0x10000 + ((surrogates c).1 - 0xD800) * 0x400 + ((surrogates c).2 - 0xDC00) = c.toNat := by
    simp only [surrogates]
    omega
  rw [isHigh_iff, isLow_iff, Text.paired, number, Char.ofNat_toNat]
  refine ⟨?_, ?_, rfl⟩ <;> simp only [surrogates] <;> omega

/-- Two halves of a pair stand for a character. -/
theorem paired_surrogates {high low : Nat} (first : Text.isHigh high = true) (second : Text.isLow low = true) :
    0x10000 ≤ (Text.paired high low).toNat ∧ surrogates (Text.paired high low) = (high, low) := by
  rw [isHigh_iff] at first
  rw [isLow_iff] at second
  have number : (Text.paired high low).toNat = 0x10000 + (high - 0xD800) * 0x400 + (low - 0xDC00) :=
    toNat_ofNat (.inr (by omega))
  rw [surrogates, number, Prod.mk.injEq]
  omega

/-- What is no half of a pair is a character. -/
theorem toNat_whole {unit : Nat} (small : unit < 16 ^ 4) (high : ¬ Text.isHigh unit = true)
    (low : ¬ Text.isLow unit = true) : (Char.ofNat unit).toNat = unit := by
  rw [isHigh_iff] at high
  rw [isLow_iff] at low
  exact toNat_ofNat (by unfold Nat.isValidChar; omega)

/-- The reader understands every way to write a text. -/
theorem Spells.readFrom? {cs body : List Char} (spells : Spells cs body) (before : List Char) (rest : Input) :
    Text.readFrom? none before (body.map some ++ some '"' :: rest) = some (before.reverse ++ cs, rest) := by
  induction spells generalizing before with
  | nil => simp [Text.readFrom?]
  | plain plain _ ih =>
    rw [List.map_cons, List.cons_append, Text.readFrom?_plain plain, if_neg (by decide), ih]
    simp
  | letter known _ ih =>
    rw [List.map_cons, List.map_cons, List.cons_append, List.cons_append, Text.readFrom?_letter known, if_neg (by decide),
      ih]
    simp
  | @unit c cs digits body written _ ih =>
    simp only [List.map_cons, List.map_append, List.cons_append, List.append_assoc]
    rw [Text.readFrom?_unit written, (not_half c).1, (not_half c).2, if_neg (by decide), if_neg (by decide), ih,
      Char.ofNat_toNat]
    simp
  | @pair c cs high low body beyond first second _ ih =>
    obtain ⟨isHigh, isLow, paired⟩ := surrogates_paired beyond
    simp only [List.map_cons, List.map_append, List.cons_append, List.append_assoc]
    rw [Text.readFrom?_unit first, if_pos isHigh, Text.readFrom?_second second, if_pos isLow, paired, ih]
    simp

/-- A character as it is written. -/
theorem Spells.escape (c : Char) {cs body : List Char} (rest : Spells cs body) :
    Spells (c :: cs) (Text.escape c ++ body) := by
  have known {d : Char} (same : c.toNat = d.toNat) : c = d := Char.toNat_inj.mp same
  unfold Text.escape
  split
  next quote => subst quote; exact .letter (by decide) rest
  split
  next back => subst back; exact .letter (by decide) rest
  split
  next b => obtain rfl := known (d := '\x08') b; exact .letter (by decide) rest
  split
  next t => obtain rfl := known (d := '\t') t; exact .letter (by decide) rest
  split
  next n => obtain rfl := known (d := '\n') n; exact .letter (by decide) rest
  split
  next f => obtain rfl := known (d := '\x0c') f; exact .letter (by decide) rest
  split
  next r => obtain rfl := known (d := '\r') r; exact .letter (by decide) rest
  split
  next control => exact .unit ⟨by omega, FeedFanout.Text.Hex.lower_digits ..⟩ rest
  next quote back _ _ _ _ _ control => exact .plain ⟨Nat.not_lt.mp control, quote, back⟩ rest

/-- A text as it is written. -/
theorem spells_escape (cs : List Char) : Spells cs (cs.flatMap Text.escape) := by
  induction cs with
  | nil => exact .nil
  | cons c cs ih => exact ih.escape c

theorem Spells.unique {cs ds body : List Char} (spells : Spells cs body) (other : Spells ds body) : cs = ds := by
  have read := (spells.readFrom? [] []).symm.trans (other.readFrom? [] [])
  simpa using read

/-- No control character stands between the quotes of a text. -/
theorem IsBody.visible {body : List Char} (admitted : IsBody body) : ∀ c ∈ body, 32 ≤ c.toNat := by
  induction admitted with
  | nil => exact nofun
  | plain plain _ ih => exact List.forall_mem_cons.mpr ⟨plain.1, ih⟩
  | letter known _ ih =>
    have shown : ∀ pair ∈ letters, 32 ≤ pair.1.toNat := by decide
    exact List.forall_mem_cons.mpr ⟨by decide, List.forall_mem_cons.mpr ⟨shown _ known, ih⟩⟩
  | unit written _ ih =>
    obtain ⟨a, b, c, d, rfl, first, second, third, fourth⟩ := Text.four_digits written
    have shown {c : Char} {n : Nat} (value : FeedFanout.Text.Hex.value? c = some n) : 32 ≤ c.toNat := by
      by_contra low
      rw [FeedFanout.Text.Hex.value?, if_neg (by omega), if_neg (by omega), if_neg (by omega)] at value
      cases value
    simp only [List.cons_append, List.nil_append, List.forall_mem_cons]
    exact ⟨by decide, by decide, shown first, shown second, shown third, shown fourth, ih⟩

/-! ### What spells nothing -/

/-- The reader has no text for this, whatever stands around it. -/
def Refused (high : Option Nat) (body : List Char) : Prop :=
  ∀ before rest, Text.readFrom? high before (body.map some ++ some '"' :: rest) = none

theorem Refused.behind {high next : Option Nat} {body : List Char} (start : List Char)
    (goes : ∀ before rest, ∃ later, Text.readFrom? high before (start.map some ++ rest) =
      Text.readFrom? next later rest) (refused : Refused next body) : Refused high (start ++ body) := by
  intro before rest
  obtain ⟨later, same⟩ := goes before (body.map some ++ some '"' :: rest)
  rw [List.map_append, List.append_assoc, same, refused]

/-- What the grammar admits spells a text, or else the reader refuses it. Behind a first half it completes the pair and
spells the rest of a text, or else is refused. -/
theorem IsBody.spells_or_refused {body : List Char} (admitted : IsBody body) :
    ((∃ cs, Spells cs body) ∨ Refused none body) ∧
      ((∀ first digits, Text.isHigh first = true → IsUnit first digits →
          ∃ cs, Spells cs ('\\' :: 'u' :: (digits ++ body))) ∨ ∀ first, Refused (some first) body) := by
  induction admitted with
  | nil => exact ⟨.inl ⟨[], .nil⟩, .inr fun first before rest => by simp [Text.readFrom?]⟩
  | @plain c body plain _ ih =>
    refine ⟨?_, .inr fun first before rest => Text.readFrom?_plain plain (some first)⟩
    obtain ⟨cs, spells⟩ | refused := ih.1
    · exact .inl ⟨_, .plain plain spells⟩
    · exact .inr (refused.behind [c] fun before rest => ⟨_, Text.readFrom?_plain plain none⟩)
  | @letter letter c body known _ ih =>
    refine ⟨?_, .inr fun first before rest => Text.readFrom?_letter known (some first)⟩
    obtain ⟨cs, spells⟩ | refused := ih.1
    · exact .inl ⟨_, .letter known spells⟩
    · exact .inr (refused.behind ['\\', letter] fun before rest => ⟨_, Text.readFrom?_letter known none⟩)
  | @unit unit digits body written _ ih =>
    constructor
    · by_cases high : Text.isHigh unit = true
      · obtain spells | refused := ih.2
        · exact .inl (spells unit digits high written)
        · exact .inr ((refused unit).behind ('\\' :: 'u' :: digits) fun before rest =>
            ⟨before, (Text.readFrom?_unit written).trans (if_pos high)⟩)
      · by_cases low : Text.isLow unit = true
        · refine .inr fun before rest => ?_
          rw [List.map_cons, List.map_cons, List.map_append, List.cons_append, List.cons_append, List.append_assoc,
            Text.readFrom?_unit written, if_neg high, if_pos low]
        · obtain ⟨cs, spells⟩ | refused := ih.1
          · rw [← toNat_whole written.1 high low] at written
            exact .inl ⟨_, .unit written spells⟩
          · exact .inr (refused.behind ('\\' :: 'u' :: digits) fun before rest =>
              ⟨_, (Text.readFrom?_unit written).trans ((if_neg high).trans (if_neg low))⟩)
    · by_cases low : Text.isLow unit = true
      · obtain ⟨cs, spells⟩ | refused := ih.1
        · refine .inl fun first ds high begun => ⟨Text.paired first unit :: cs, ?_⟩
          obtain ⟨beyond, halves⟩ := paired_surrogates high low
          exact .pair beyond (by rwa [halves]) (by rwa [halves]) spells
        · exact .inr fun first => refused.behind ('\\' :: 'u' :: digits) fun before rest =>
            ⟨_, (Text.readFrom?_second written).trans (if_pos low)⟩
      · refine .inr fun first before rest => ?_
        rw [List.map_cons, List.map_cons, List.map_append, List.cons_append, List.cons_append, List.append_assoc,
          Text.readFrom?_second written, if_neg low]

/-- Of what the grammar admits, the reader takes what spells a text, up to the closing quote. -/
theorem IsBody.read?_eq_some_iff {body cs : List Char} (admitted : IsBody body) {rest rest' : Input} :
    Text.read? (body.map some ++ some '"' :: rest) = some (cs, rest') ↔ Spells cs body ∧ rest' = rest := by
  have read {ds : List Char} (spells : Spells ds body) :
      Text.read? (body.map some ++ some '"' :: rest) = some (ds, rest) := by
    simpa [Text.read?] using spells.readFrom? [] rest
  constructor
  · intro given
    obtain ⟨ds, spells⟩ | refused := admitted.spells_or_refused.1
    · obtain ⟨rfl, rfl⟩ := Prod.mk.inj (Option.some.inj (given.symm.trans (read spells)))
      exact ⟨spells, rfl⟩
    · cases given.symm.trans (refused [] rest)
  · rintro ⟨spells, rfl⟩
    exact read spells

end FeedFanout.Json
