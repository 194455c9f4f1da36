import FeedFanout.Json.Record
import FeedFanout.Proofs.Grammar
import Mathlib.Data.Bool.AllAny

/-!
Records in JSON documents. What fields take from values is told by a relation (`Format.Regular`); a record is then read
from an object exactly if its members in their order fill the fields, each field once (`object_eq_ok_iff`), and from an
array exactly if its elements do (`array_eq_ok_iff`). Whatever a value holds, what is read of it ends where it ends.
-/
namespace FeedFanout.Json

/-! ### Blank space and texts -/

theorem isSpace_iff {c : Char} : isSpace (some c) = true ↔ c ∈ [' ', '\n', '\t', '\r'] := by
  simp [isSpace, or_assoc]

theorem isBlank_iff {blank : List Char} : IsBlank blank ↔ ∀ c ∈ blank.map some, isSpace c = true := by
  simp only [List.forall_mem_map, isSpace_iff]
  rfl

/-- Blank space has no stray bytes. -/
theorem exists_of_isSpace {input : Input} (all : ∀ c ∈ input, isSpace c = true) :
    ∃ blank : List Char, input = blank.map some := by
  induction input with
  | nil => exact ⟨[], rfl⟩
  | cons c rest ih =>
    obtain ⟨blank, rfl⟩ := ih fun d member => all d (List.mem_cons_of_mem c member)
    cases c with
    | none => cases all none List.mem_cons_self
    | some c => exact ⟨c :: blank, rfl⟩

theorem skipSpace_blank {blank : List Char} (isBlank : IsBlank blank) (rest : Input) :
    skipSpace (blank.map some ++ rest) = skipSpace rest :=
  List.dropWhile_append_of_pos (isBlank_iff.mp isBlank)

theorem skipSpace_some {c : Char} {rest : Input} (visible : isSpace (some c) = false) :
    skipSpace (some c :: rest) = some c :: rest := by
  simp [skipSpace, visible]

theorem isEmpty_skipSpace (input : Input) : (skipSpace input).isEmpty = true ↔ ∀ c ∈ input, isSpace c = true := by
  induction input with
  | nil => simp [skipSpace]
  | cons c rest ih => by_cases space : isSpace c = true <;> simp_all [skipSpace]

/-- The value is a text. -/
def IsText (cs value : List Char) : Prop := ∃ body, Spells cs body ∧ value = '"' :: (body ++ ['"'])

theorem IsText.unique {cs ds value : List Char} (isText : IsText cs value) (other : IsText ds value) : cs = ds := by
  obtain ⟨body, spells, rfl⟩ := isText
  obtain ⟨_, spells', same⟩ := other
  obtain rfl := List.append_cancel_right (List.cons.inj same).2
  exact spells.unique spells'

/-- A value that is no text begins with another character. -/
theorem IsValue.text_or_other {value : List Char} (isValue : IsValue value) :
    (∃ body, IsBody body ∧ value = '"' :: (body ++ ['"'])) ∨
      ∃ c ∈ '[' :: '{' :: plainHeads, ∃ tail, value = c :: tail := by
  obtain ⟨c, known, tail, same⟩ | text | ⟨elements, array, -⟩ | ⟨members, object, -⟩ := isValue.head
  · exact .inr ⟨c, List.mem_append_right ['[', '{'] known, tail, same⟩
  · exact .inl text
  · obtain ⟨tail, same⟩ := array.head
    exact .inr ⟨'[', by decide, tail, same⟩
  · obtain ⟨tail, same⟩ := object.head
    exact .inr ⟨'{', by decide, tail, same⟩

theorem other_head : ∀ c ∈ '[' :: '{' :: plainHeads, isSpace (some c) = false ∧ c ≠ '"' :=
  List.all_iff_forall_prop.mp (by decide)

variable {Custom σ : Type}

/-- A text is read from a value that is one, up to its end. -/
theorem readString_eq_ok_iff {expected : String} {value blank cs : List Char} (isValue : IsValue value)
    (isBlank : IsBlank blank) {rest rest' : Input} :
    (readString expected (blank.map some ++ (value.map some ++ rest)) : Except (Halt Custom) _) = .ok (cs, rest') ↔
      IsText cs value ∧ rest' = rest := by
  rw [readString, skipSpace_blank isBlank]
  obtain ⟨body, admitted, rfl⟩ | ⟨c, known, tail, rfl⟩ := isValue.text_or_other
  · have same : IsText cs ('"' :: (body ++ ['"'])) ↔ Spells cs body := by
      constructor
      · rintro ⟨other, spells, same⟩
        obtain rfl := List.append_cancel_right (List.cons.inj same).2
        exact spells
      · exact fun spells => ⟨body, spells, rfl⟩
    rw [same, ← admitted.read?_eq_some_iff]
    simp only [List.map_cons, List.map_append, List.map_nil, List.cons_append, List.append_assoc, List.nil_append]
    rw [skipSpace_some (by decide)]
    cases given : Text.read? (body.map some ++ some '"' :: rest) <;> simp [given]
  · obtain ⟨visible, unquoted⟩ := other_head c known
    rw [List.map_cons, List.cons_append, skipSpace_some visible]
    constructor
    · intro read
      split at read
      next rest same => exact absurd (Option.some.inj (List.cons.inj same).1) unquoted
      · cases read
    · rintro ⟨⟨body, -, same⟩, -⟩
      exact absurd (List.cons.inj same).1 unquoted

/-! ### Members -/

structure Member.WellFormed (m : Member) : Prop where
  spaced : m.Spaced
  name : IsBody m.name
  value : IsValue m.element.value

theorem IsObject.isValue {members : List Member} {cs : List Char} (object : IsObject members cs)
    (wellFormed : ∀ m ∈ members, m.WellFormed) : IsValue cs :=
  .object object (fun m member => (wellFormed m member).spaced) (fun m member => (wellFormed m member).name)
    fun m member => (wellFormed m member).value

theorem mapError_eq_ok_iff {ε ε' α : Type} (f : ε → ε') (r : Except ε α) (a : α) : r.mapError f = .ok a ↔ r = .ok a := by
  cases r <;> simp [Except.mapError]

namespace Format

@[simp] theorem within_eq_ok_iff (place : Place) (result : Except (Halt Custom) (σ × Input)) (answer : σ × Input) :
    within place result = .ok answer ↔ result = .ok answer := mapError_eq_ok_iff ..

/-- What the fields of a format take from values, as a relation of the value and the drafts before and after. -/
structure Regular (format : Format Custom σ) (takes : Field Custom σ → List Char → σ → σ → Prop) : Prop where
  read : ∀ {field : Field Custom σ} {value blank : List Char}, field ∈ format.fields → IsValue value → IsBlank blank →
    ∀ (draft draft' : σ) (rest rest' : Input),
      (field.read draft (blank.map some ++ (value.map some ++ rest)) = .ok (draft', rest') ↔
        takes field value draft draft' ∧ rest' = rest)

variable {format : Format Custom σ} {takes : Field Custom σ → List Char → σ → σ → Prop}

/-- What a member does to a draft. The member of a field that the draft has is refused. -/
inductive Fills (format : Format Custom σ) (takes : Field Custom σ → List Char → σ → σ → Prop) (draft : σ) (m : Member) :
    σ → Prop
  | field {name : List Char} {field : Field Custom σ} {draft' : σ} (named : Spells name m.name)
      (found : format.fields.find? (·.name = String.ofList name) = some field) (lacking : field.has draft = false)
      (taken : takes field m.element.value draft draft') : Fills format takes draft m draft'
  | other {name : List Char} (named : Spells name m.name)
      (unknown : format.fields.find? (·.name = String.ofList name) = none) : Fills format takes draft m draft

theorem Fills.named {draft draft' : σ} {m : Member} (fills : Fills format takes draft m draft') :
    ∃ name, Spells name m.name := by
  cases fills with
  | field named | other named => exact ⟨_, named⟩

/-- The value of a member, up to the mark behind it. -/
theorem member_eq_ok_iff (regular : format.Regular takes) {m : Member} (wellFormed : m.WellFormed) {name : List Char}
    (named : Spells name m.name) {draft draft' : σ} {c : Option Char}
    (mark : c ∈ [some ',', some ']', some '}']) {rest rest' : Input} :
    format.member draft (String.ofList name)
        (m.behind.map some ++ some ':' :: (m.element.chars.map some ++ c :: rest)) = .ok (draft', rest') ↔
      Fills format takes draft m draft' ∧ rest' = m.element.after.map some ++ c :: rest := by
  obtain ⟨spaced, -, isValue⟩ := wellFormed
  have value : (m.element.chars.map some ++ c :: rest) =
      m.element.before.map some ++ (m.element.value.map some ++ (m.element.after.map some ++ c :: rest)) := by
    simp [Element.chars]
  rw [member, skipSpace_blank spaced.behind, skipSpace_some (by decide), value]
  cases found : format.fields.find? (·.name = String.ofList name) with
  | none =>
    have passed : Skip.value? (m.element.before.map some ++ (m.element.value.map some ++
        (m.element.after.map some ++ c :: rest))) = some (m.element.after.map some ++ c :: rest) :=
      isValue.value? spaced.element.1 (Skip.delimited_blank spaced.element.2 mark)
    simp only [Option.any_none, Bool.false_eq_true, if_false, passed, within_eq_ok_iff, Except.ok.injEq, Prod.mk.injEq]
    constructor
    · rintro ⟨rfl, rfl⟩
      exact ⟨.other named found, rfl⟩
    · rintro ⟨fills, rfl⟩
      cases fills with
      | field named' found' =>
        obtain rfl := named.unique named'
        cases found.symm.trans found'
      | other => exact ⟨rfl, rfl⟩
  | some field =>
    have known : field ∈ format.fields := List.mem_of_find?_eq_some found
    simp only [Option.any_some]
    by_cases has : field.has draft = true
    · rw [if_pos has]
      constructor
      · intro read
        cases read
      · rintro ⟨fills, -⟩
        cases fills with
        | field named' found' lacking =>
          obtain rfl := named.unique named'
          cases found.symm.trans found'
          cases has.symm.trans lacking
        | other named' unknown =>
          obtain rfl := named.unique named'
          cases found.symm.trans unknown
    · rw [if_neg has]
      have read := regular.read known isValue spaced.element.1 draft draft' (m.element.after.map some ++ c :: rest) rest'
      refine (within_eq_ok_iff ..).trans (read.trans (and_congr_left' ?_))
      constructor
      · exact fun taken => .field named found (Bool.eq_false_iff.mpr has) taken
      · intro fills
        cases fills with
        | field named' found' lacking taken =>
          obtain rfl := named.unique named'
          cases found.symm.trans found'
          exact taken
        | other named' unknown =>
          obtain rfl := named.unique named'
          cases found.symm.trans unknown

/-- What the members of an object do to a draft one after the other. -/
inductive FillsAll (format : Format Custom σ) (takes : Field Custom σ → List Char → σ → σ → Prop) :
    σ → List Member → σ → Prop
  | nil {draft : σ} : FillsAll format takes draft [] draft
  | cons {draft mid draft' : σ} {m : Member} {ms : List Member} (first : Fills format takes draft m mid)
      (others : FillsAll format takes mid ms draft') : FillsAll format takes draft (m :: ms) draft'

theorem close_eq_ok_iff {draft draft' : σ} {rest rest' : Input} : format.close draft rest = .ok (draft', rest') ↔
    (∀ field ∈ format.fields, field.has draft = true) ∧ draft' = draft ∧ rest' = rest := by
  have all : format.fields.find? (!·.has draft) = none ↔ ∀ field ∈ format.fields, field.has draft = true := by simp
  rw [close, ← all]
  cases format.fields.find? (!·.has draft) with
  | none => simp [eq_comm]
  | some field =>
    constructor
    · intro closed
      cases closed
    · rintro ⟨complete, -⟩
      cases complete

/-- A member of an object with the mark behind it. -/
theorem members_succ_iff (regular : format.Regular takes) {m : Member} (wellFormed : m.WellFormed) {draft : σ}
    {fuel : Nat} {first : Bool} {mark : Char} (marks : mark ∈ [',', '}']) {rest : Input} {result : σ × Input} :
    format.members (fuel + 1) first draft (m.chars.map some ++ some mark :: rest) = .ok result ↔
      ∃ mid, Fills format takes draft m mid ∧
        (if mark = ',' then format.members fuel false mid rest else format.close mid rest) = .ok result := by
  have mark' : some mark ∈ [some ',', some ']', some '}'] := by
    simp only [List.mem_cons, List.not_mem_nil, or_false] at marks
    rcases marks with rfl | rfl <;> decide
  have visible : isSpace (some mark) = false := by
    simp only [List.mem_cons, List.not_mem_nil, or_false] at marks
    rcases marks with rfl | rfl <;> decide
  simp only [Member.chars, List.map_append, List.map_cons, List.append_assoc, List.cons_append]
  rw [members, skipSpace_blank wellFormed.spaced.before, skipSpace_some (by decide)]
  have reads (name : List Char) {rest : Input} :
      Text.read? (m.name.map some ++ some '"' :: rest) = some (name, rest) ↔ Spells name m.name := by
    simp [wellFormed.name.read?_eq_some_iff]
  cases named : Text.read? (m.name.map some ++ some '"' ::
      (m.behind.map some ++ some ':' :: (m.element.chars.map some ++ some mark :: rest))) with
  | none =>
    simp only [named]
    constructor
    · intro read
      cases read
    · rintro ⟨mid, fills, -⟩
      obtain ⟨name, spells⟩ := fills.named
      cases named.symm.trans ((reads name).mpr spells)
  | some read =>
    obtain ⟨name, behind⟩ := read
    obtain ⟨spells, rfl⟩ := wellFormed.name.read?_eq_some_iff.mp named
    have member (mid : σ) (rest' : Input) := @member_eq_ok_iff _ _ format takes regular m wellFormed name spells draft mid
      (some mark) mark' rest rest'
    cases given : format.member draft (String.ofList name)
        (m.behind.map some ++ some ':' :: (m.element.chars.map some ++ some mark :: rest)) with
    | error e =>
      simp only [named, given]
      constructor
      · intro read
        cases read
      · rintro ⟨mid, fills, -⟩
        cases given.symm.trans ((member mid _).mpr ⟨fills, rfl⟩)
    | ok taken =>
      obtain ⟨mid, behind⟩ := taken
      obtain ⟨fills, rfl⟩ := (member mid behind).mp given
      have unique {mid' : σ} (fills' : Fills format takes draft m mid') : mid' = mid := by
        have again := given.symm.trans ((member mid' _).mpr ⟨fills', rfl⟩)
        exact (Prod.mk.inj (Except.ok.inj again)).1.symm
      have goesOn (next : σ → Except (Halt Custom) (σ × Input)) :
          next mid = .ok result ↔ ∃ mid', Fills format takes draft m mid' ∧ next mid' = .ok result := by
        constructor
        · exact fun read => ⟨mid, fills, read⟩
        · rintro ⟨mid', fills', read⟩
          rwa [← unique fills']
      simp only [named, given, skipSpace_blank wellFormed.spaced.element.2, skipSpace_some visible]
      simp only [List.mem_cons, List.not_mem_nil, or_false] at marks
      rcases marks with rfl | rfl
      · exact goesOn fun mid => format.members fuel false mid rest
      · exact goesOn fun mid => format.close mid rest

theorem fillsAll_cons_iff {draft draft' : σ} {m : Member} {ms : List Member} :
    FillsAll format takes draft (m :: ms) draft' ↔
      ∃ mid, Fills format takes draft m mid ∧ FillsAll format takes mid ms draft' := by
  constructor
  · intro all
    cases all with
    | cons first others => exact ⟨_, first, others⟩
  · rintro ⟨mid, first, others⟩
    exact .cons first others

theorem fillsAll_nil_iff {draft draft' : σ} : FillsAll format takes draft [] draft' ↔ draft' = draft := by
  constructor
  · intro all
    cases all
    rfl
  · rintro rfl
    exact .nil

/-- The members of an object up to the closing brace, if there is fuel for each of them. -/
theorem members_eq_ok_iff (regular : format.Regular takes) {m : Member} {ms : List Member}
    (wellFormed : ∀ x ∈ m :: ms, x.WellFormed) {fuel : Nat} (enough : ms.length < fuel) {first : Bool}
    {draft draft' : σ} {rest rest' : Input} :
    format.members fuel first draft ((List.intercalate [','] ((m :: ms).map Member.chars)).map some ++ some '}' :: rest) =
        .ok (draft', rest') ↔
      FillsAll format takes draft (m :: ms) draft' ∧ (∀ field ∈ format.fields, field.has draft' = true) ∧
        rest' = rest := by
  induction ms generalizing m draft fuel first with
  | nil =>
    obtain ⟨fuel, rfl⟩ := Nat.exists_eq_succ_of_ne_zero (Nat.ne_zero_of_lt enough)
    rw [List.map_singleton, List.intercalate_singleton,
      members_succ_iff regular (wellFormed m List.mem_cons_self) (by decide),
      fillsAll_cons_iff]
    simp only [fillsAll_nil_iff]
    constructor
    · rintro ⟨mid, fills, closed⟩
      obtain ⟨complete, rfl, rfl⟩ := close_eq_ok_iff.mp closed
      exact ⟨⟨_, fills, rfl⟩, complete, rfl⟩
    · rintro ⟨⟨mid, fills, rfl⟩, complete, rfl⟩
      exact ⟨_, fills, close_eq_ok_iff.mpr ⟨complete, rfl, rfl⟩⟩
  | cons next ms ih =>
    obtain ⟨fuel, rfl⟩ := Nat.exists_eq_succ_of_ne_zero (Nat.ne_zero_of_lt enough)
    rw [List.map_cons, List.map_cons, List.intercalate_cons_cons]
    simp only [List.map_append, List.map_cons, List.append_assoc, List.cons_append, List.nil_append]
    rw [members_succ_iff regular (wellFormed m List.mem_cons_self) (by decide), fillsAll_cons_iff]
    have others := @ih next (fun x member => wellFormed x (List.mem_cons_of_mem m member)) fuel
      (Nat.lt_of_succ_lt_succ enough) false
    simp only [List.map_cons] at others
    simp only [if_true, others]
    constructor
    · rintro ⟨mid, fills, all, complete, rfl⟩
      exact ⟨⟨mid, fills, all⟩, complete, rfl⟩
    · rintro ⟨⟨mid, fills, all⟩, complete, rfl⟩
      exact ⟨mid, fills, all, complete, rfl⟩

theorem members_skipSpace (fuel : Nat) (first : Bool) (draft : σ) (input : Input) :
    format.members (fuel + 1) first draft (skipSpace input) = format.members (fuel + 1) first draft input := by
  have idempotent : skipSpace (skipSpace input) = skipSpace input := by
    induction input with
    | nil => rfl
    | cons c rest ih => by_cases space : isSpace c = true <;> simp_all [skipSpace]
  rw [members, members, idempotent]

/-- An object fills the draft with its members, each field once and none left out. -/
theorem object_eq_ok_iff (regular : format.Regular takes) {members : List Member} {cs : List Char}
    (object : IsObject members cs) (wellFormed : ∀ m ∈ members, m.WellFormed) {draft : σ} {tail tail' : Input} :
    format.value (cs.map some ++ tail) = .ok (draft, tail') ↔
      FillsAll format takes format.blank members draft ∧ (∀ field ∈ format.fields, field.has draft = true) ∧
        tail' = tail := by
  cases object with
  | empty isBlank =>
    simp only [List.map_cons, List.map_append, List.map_nil, List.cons_append, List.append_assoc, List.nil_append]
    rw [value, skipSpace_some (by decide), fillsAll_nil_iff]
    simp only [object]
    rw [skipSpace_blank isBlank, skipSpace_some (by decide)]
    refine close_eq_ok_iff.trans ?_
    constructor
    · rintro ⟨complete, rfl, rfl⟩
      exact ⟨rfl, complete, rfl⟩
    · rintro ⟨rfl, complete, rfl⟩
      exact ⟨complete, rfl, rfl⟩
  | @filled m ms =>
    obtain ⟨others, same, length⟩ := exists_intercalate m.chars (ms.map Member.chars)
    rw [List.length_map] at length
    have begins : skipSpace ((List.intercalate [','] ((m :: ms).map Member.chars)).map some ++ some '}' :: tail) =
        some '"' :: ((m.name ++ '"' :: (m.behind ++ ':' :: m.element.chars)).map some ++
          (others.map some ++ some '}' :: tail)) := by
      rw [List.map_cons, same, Member.chars, List.map_append, List.map_append, List.append_assoc, List.append_assoc,
        skipSpace_blank (wellFormed m List.mem_cons_self).spaced.before, List.map_cons, List.cons_append,
        skipSpace_some (by decide)]
    rw [List.map_cons, List.map_append, List.cons_append, List.append_assoc]
    rw [value, skipSpace_some (by decide)]
    change format.object ((List.intercalate [','] ((m :: ms).map Member.chars)).map some ++ some '}' :: tail) = _ ↔ _
    rw [Format.object, begins]
    change format.members (_ + 1) _ _ (some '"' :: _) = _ ↔ _
    rw [← begins, members_skipSpace]
    refine members_eq_ok_iff regular wellFormed ?_
    simp only [List.length_cons, List.length_append, List.length_map]
    omega

/-! ### Elements -/

/-- What the elements of an array do to a draft, one for each field. -/
inductive Lists (takes : Field Custom σ → List Char → σ → σ → Prop) : σ → List (Field Custom σ) → List Element → σ → Prop
  | nil {draft : σ} : Lists takes draft [] [] draft
  | cons {draft mid draft' : σ} {field : Field Custom σ} {fields : List (Field Custom σ)} {e : Element}
      {es : List Element} (first : takes field e.value draft mid) (others : Lists takes mid fields es draft') :
      Lists takes draft (field :: fields) (e :: es) draft'

/-- What stands behind an element: its blank space and the other elements, each behind a comma. -/
def behind (after : List Char) (es : List Element) (tail : Input) : Input :=
  after.map some ++ ((es.map fun e => ',' :: e.chars).flatten.map some ++ some ']' :: tail)

theorem lists_cons_iff {draft draft' : σ} {field : Field Custom σ} {fields : List (Field Custom σ)} {e : Element}
    {es : List Element} : Lists takes draft (field :: fields) (e :: es) draft' ↔
      ∃ mid, takes field e.value draft mid ∧ Lists takes mid fields es draft' := by
  constructor
  · intro lists
    cases lists with
    | cons first others => exact ⟨_, first, others⟩
  · rintro ⟨mid, first, others⟩
    exact .cons first others

/-- A value that is read into a field, and what is read behind it. -/
theorem element_iff (regular : format.Regular takes) {field : Field Custom σ} (known : field ∈ format.fields)
    {value blank : List Char} (isBlank : IsBlank blank) (isValue : IsValue value) {draft : σ} {rest : Input}
    {place : Place} {next : σ → Input → Except (Halt Custom) (σ × Input)} {result : σ × Input} :
    (match within place (field.read draft (blank.map some ++ (value.map some ++ rest))) with
      | .error e => (.error e : Except (Halt Custom) (σ × Input))
      | .ok (mid, rest) => next mid rest) = .ok result ↔
      ∃ mid, takes field value draft mid ∧ next mid rest = .ok result := by
  have reads (mid : σ) (rest' : Input) := regular.read known isValue isBlank draft mid rest rest'
  cases given : field.read draft (blank.map some ++ (value.map some ++ rest)) with
  | error e =>
    constructor
    · intro read
      cases read
    · rintro ⟨mid, taken, -⟩
      cases given.symm.trans ((reads mid rest).mpr ⟨taken, rfl⟩)
  | ok answer =>
    obtain ⟨mid, rest'⟩ := answer
    obtain ⟨taken, rfl⟩ := (reads mid rest').mp given
    constructor
    · exact fun read => ⟨mid, taken, read⟩
    · rintro ⟨mid', taken', read⟩
      obtain ⟨rfl, -⟩ := Prod.mk.inj (Except.ok.inj (given.symm.trans ((reads mid' _).mpr ⟨taken', rfl⟩)))
      exact read

/-- Where a value begins, no array ends. -/
theorem skipSpace_value {value blank : List Char} (isValue : IsValue value) (isBlank : IsBlank blank) (rest : Input) :
    skipSpace (blank.map some ++ (value.map some ++ rest)) = value.map some ++ rest ∧
      (value.map some ++ rest).head? ≠ some (some ']') ∧ value.map some ++ rest ≠ [] := by
  have visible : ∀ c ∈ '"' :: '[' :: '{' :: plainHeads, isSpace (some c) = false ∧ c ≠ ']' :=
    List.all_iff_forall_prop.mp (by decide)
  obtain ⟨c, known, tail, rfl⟩ : ∃ c ∈ '"' :: '[' :: '{' :: plainHeads, ∃ tail, value = c :: tail := by
    obtain ⟨body, -, rfl⟩ | ⟨c, known, tail, rfl⟩ := isValue.text_or_other
    · exact ⟨'"', by decide, _, rfl⟩
    · exact ⟨c, List.mem_cons_of_mem _ known, tail, rfl⟩
  rw [skipSpace_blank isBlank, List.map_cons, List.cons_append]
  exact ⟨skipSpace_some (visible c known).1, by simpa using (visible c known).2, List.cons_ne_nil _ _⟩

theorem elements_eq_ok_iff (regular : format.Regular takes) {fields : List (Field Custom σ)}
    (known : ∀ field ∈ fields, field ∈ format.fields) {after : List Char} (isBlank : IsBlank after) {es : List Element}
    (spaced : ∀ e ∈ es, e.Spaced) (values : ∀ e ∈ es, IsValue e.value) (index : Nat) (draft draft' : σ)
    (tail tail' : Input) :
    format.elements (index + 1) draft fields (behind after es tail) = .ok (draft', tail') ↔
      Lists takes draft fields es draft' ∧ tail' = tail := by
  induction fields generalizing index draft after es with
  | nil =>
    rw [elements, behind, skipSpace_blank isBlank]
    cases es with
    | nil =>
      simp only [List.map_nil, List.flatten_nil, List.nil_append]
      rw [skipSpace_some (by decide)]
      constructor
      · intro read
        cases read
        exact ⟨.nil, rfl⟩
      · rintro ⟨lists, rfl⟩
        cases lists
        rfl
    | cons e es =>
      simp only [List.map_cons, List.flatten_cons, List.cons_append, List.map_append]
      rw [skipSpace_some (by decide)]
      constructor
      · intro read
        cases read
      · rintro ⟨lists, -⟩
        cases lists
  | cons field fields ih =>
    cases es with
    | nil =>
      have closes : skipSpace (behind after [] tail) = some ']' :: tail := by
        simp only [behind, List.map_nil, List.flatten_nil, List.nil_append]
        rw [skipSpace_blank isBlank, skipSpace_some (by decide)]
      rw [elements.eq_def]
      simp only [closes]
      constructor
      · intro read
        cases read
      · rintro ⟨lists, -⟩
        cases lists
    | cons e es =>
      have goesOn : skipSpace (behind after (e :: es) tail) =
          some ',' :: (e.before.map some ++ (e.value.map some ++ behind e.after es tail)) := by
        simp only [behind, List.map_cons, List.flatten_cons, List.cons_append, List.map_append, List.append_assoc,
          Element.chars]
        rw [skipSpace_blank isBlank, skipSpace_some (by decide)]
      have spaced' := spaced e List.mem_cons_self
      have isValue := values e List.mem_cons_self
      obtain ⟨begins, more, -⟩ := skipSpace_value isValue spaced'.1 (behind e.after es tail)
      rw [elements.eq_def]
      simp only [goesOn, begins, if_neg more]
      refine (element_iff regular (known field List.mem_cons_self) spaced'.1 isValue).trans ?_
      rw [lists_cons_iff]
      have others := ih (fun other member => known other (List.mem_cons_of_mem field member)) spaced'.2
        (fun x member => spaced x (List.mem_cons_of_mem e member))
        (fun x member => values x (List.mem_cons_of_mem e member)) (index + 1)
      simp only [others]
      constructor
      · rintro ⟨mid, taken, lists, rfl⟩
        exact ⟨⟨mid, taken, lists⟩, rfl⟩
      · rintro ⟨⟨mid, taken, lists⟩, rfl⟩
        exact ⟨mid, taken, lists, rfl⟩

theorem intercalate_elements (e : Element) (es : List Element) :
    List.intercalate [','] ((e :: es).map Element.chars) = e.chars ++ (es.map fun e => ',' :: e.chars).flatten := by
  induction es generalizing e with
  | nil => simp
  | cons next es ih =>
    rw [List.map_cons, List.map_cons, List.intercalate_cons_cons, ← List.map_cons, ih next]
    simp

/-- Behind the opening bracket of an array. -/
theorem elements_zero_iff (regular : format.Regular takes) {e : Element} {es : List Element}
    (spaced : ∀ x ∈ e :: es, x.Spaced) (values : ∀ x ∈ e :: es, IsValue x.value) {fields : List (Field Custom σ)}
    (known : ∀ field ∈ fields, field ∈ format.fields) {draft draft' : σ} {tail tail' : Input} :
    format.elements 0 draft fields (e.before.map some ++ (e.value.map some ++ behind e.after es tail)) =
        .ok (draft', tail') ↔
      Lists takes draft fields (e :: es) draft' ∧ tail' = tail := by
  have isValue := values e List.mem_cons_self
  obtain ⟨begins, more, filled⟩ := skipSpace_value isValue (spaced e List.mem_cons_self).1 (behind e.after es tail)
  cases fields with
  | nil =>
    rw [elements, begins]
    constructor
    · intro read
      split at read
      next same => exact absurd (congrArg List.head? same) more
      · cases read
    · rintro ⟨lists, -⟩
      cases lists
  | cons field fields =>
    rw [elements.eq_def]
    simp only [begins]
    split
    case h_1 same => exact absurd (congrArg List.head? same) more
    case h_2 same => exact absurd same filled
    case h_4 positive => exact absurd rfl positive
    case h_5 positive => exact absurd rfl positive
    have others (mid : σ) := elements_eq_ok_iff regular
      (fun other member => known other (List.mem_cons_of_mem field member))
      (spaced e List.mem_cons_self).2 (fun x member => spaced x (List.mem_cons_of_mem e member))
      (fun x member => values x (List.mem_cons_of_mem e member)) 0 mid draft' tail tail'
    have unspaced : IsBlank [] := nofun
    refine (element_iff regular (known field List.mem_cons_self) unspaced isValue).trans ?_
    simp only [others, lists_cons_iff]
    constructor
    · rintro ⟨mid, taken, lists, rfl⟩
      exact ⟨⟨mid, taken, lists⟩, rfl⟩
    · rintro ⟨⟨mid, taken, lists⟩, rfl⟩
      exact ⟨mid, taken, lists, rfl⟩

/-- An array fills the draft with its elements, one for each field. -/
theorem array_eq_ok_iff (regular : format.Regular takes) {es : List Element} {cs : List Char} (array : IsArray es cs)
    (spaced : ∀ e ∈ es, e.Spaced) (values : ∀ e ∈ es, IsValue e.value) {draft : σ} {tail tail' : Input} :
    format.value (cs.map some ++ tail) = .ok (draft, tail') ↔
      Lists takes format.blank format.fields es draft ∧ tail' = tail := by
  cases array with
  | @empty blank isBlank =>
    have closes : skipSpace (blank.map some ++ some ']' :: tail) = some ']' :: tail := by
      rw [skipSpace_blank isBlank, skipSpace_some (by decide)]
    simp only [List.map_cons, List.map_append, List.map_nil, List.cons_append, List.append_assoc, List.nil_append]
    rw [value, skipSpace_some (by decide)]
    cases format.fields with
    | nil =>
      simp only [elements, closes]
      constructor
      · intro read
        cases read
        exact ⟨.nil, rfl⟩
      · rintro ⟨lists, rfl⟩
        cases lists
        rfl
    | cons field fields =>
      simp only [elements.eq_def, closes]
      constructor
      · intro read
        cases read
      · rintro ⟨lists, -⟩
        cases lists
  | @filled e es =>
    have inner : (List.intercalate [','] ((e :: es).map Element.chars)).map some ++ some ']' :: tail =
        e.before.map some ++ (e.value.map some ++ behind e.after es tail) := by
      rw [intercalate_elements]
      simp only [Element.chars, behind, List.map_append, List.append_assoc]
    rw [List.map_cons, List.map_append, List.cons_append, List.append_assoc, value, skipSpace_some (by decide)]
    change format.elements 0 _ _ ((List.intercalate [','] ((e :: es).map Element.chars)).map some ++ some ']' :: tail)
      = _ ↔ _
    rw [inner]
    exact elements_zero_iff regular spaced values fun field known => known

/-! ### Documents -/

/-- What is neither an object nor an array is no record. -/
theorem value_ne_ok {c : Char} (known : c ∈ '"' :: plainHeads) (rest : Input) (result : σ × Input) :
    format.value (some c :: rest) ≠ .ok result := by
  have other : ∀ c ∈ '"' :: plainHeads, isSpace (some c) = false ∧ c ≠ '{' ∧ c ≠ '[' :=
    List.all_iff_forall_prop.mp (by decide)
  obtain ⟨visible, brace, bracket⟩ := other c known
  rw [value, skipSpace_some visible]
  intro read
  split at read
  next same => exact brace (Option.some.inj (List.cons.inj same).1)
  next same => exact bracket (Option.some.inj (List.cons.inj same).1)
  · cases read

/-- What is read of a value ends where the value ends. -/
theorem eq_of_value (regular : format.Regular takes) {cs : List Char} (isValue : IsValue cs) {draft : σ}
    {tail tail' : Input} (read : format.value (cs.map some ++ tail) = .ok (draft, tail')) : tail' = tail := by
  obtain ⟨c, known, rest, rfl⟩ | ⟨body, -, rfl⟩ | ⟨elements, array, spaced, values⟩ |
    ⟨members, object, spaced, names, values⟩ := isValue.head
  · exact absurd read (value_ne_ok (List.mem_cons_of_mem _ known) _ _)
  · exact absurd read (value_ne_ok (by decide) _ _)
  · exact ((array_eq_ok_iff regular array spaced values).mp read).2
  · exact ((object_eq_ok_iff regular object fun m member =>
      ⟨spaced m member, names m member, values m member⟩).mp read).2.2

/-- A document holds a value with blank space around it. -/
theorem read_eq_ok_iff (regular : format.Regular takes) {blank cs : List Char} (isBlank : IsBlank blank)
    (isValue : IsValue cs)
    {tail : Input} {draft : σ} : format.read (blank.map some ++ (cs.map some ++ tail)) = .ok draft ↔
      format.value (cs.map some ++ tail) = .ok (draft, tail) ∧ ∀ c ∈ tail, isSpace c = true := by
  have begins : format.value (blank.map some ++ (cs.map some ++ tail)) = format.value (cs.map some ++ tail) := by
    rw [value, value, skipSpace_blank isBlank]
  rw [Format.read, begins]
  refine (mapError_eq_ok_iff ..).trans ?_
  cases given : format.value (cs.map some ++ tail) with
  | error e => simp
  | ok answer =>
    obtain ⟨draft', rest⟩ := answer
    obtain rfl := eq_of_value regular isValue given
    dsimp only
    rw [← isEmpty_skipSpace]
    by_cases ended : (skipSpace rest).isEmpty = true
    · rw [if_pos ended]
      constructor
      · intro read
        obtain rfl := Except.ok.inj read
        exact ⟨rfl, ended⟩
      · rintro ⟨same, -⟩
        rw [(Prod.mk.inj (Except.ok.inj same)).1]
    · rw [if_neg ended]
      constructor
      · intro read
        cases read
      · rintro ⟨-, ended'⟩
        exact absurd ended' ended

end Format

end FeedFanout.Json
