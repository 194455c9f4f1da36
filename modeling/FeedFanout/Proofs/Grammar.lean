import FeedFanout.Proofs.Escapes
import Mathlib.Tactic.IntervalCases
import Mathlib.Tactic.Tauto

/-!
The grammar of JSON. `IsValue` says what a value is, with blank space between all tokens and values of any depth in it.
A value is passed over as a whole, wherever it stands (`IsValue.run?`).
-/
namespace FeedFanout.Json

/-! ### Values -/

/-- Blank space between tokens. -/
def IsBlank (cs : List Char) : Prop := ∀ c ∈ cs, c ∈ [' ', '\n', '\t', '\r']

/-- One digit or more. -/
def IsDigits (cs : List Char) : Prop := cs ≠ [] ∧ ∀ c ∈ cs, c.isDigit = true

/-- The digits before the point. There are no needless zeros in front of them. -/
def IsWhole (cs : List Char) : Prop := cs = ['0'] ∨ IsDigits cs ∧ cs.head? ≠ some '0'

def IsFraction (cs : List Char) : Prop := cs = [] ∨ ∃ digits, IsDigits digits ∧ cs = '.' :: digits

def IsExponent (cs : List Char) : Prop :=
  cs = [] ∨ ∃ mark ∈ ['e', 'E'], ∃ sign ∈ [[], ['+'], ['-']], ∃ digits, IsDigits digits ∧ cs = mark :: (sign ++ digits)

/-- A number of any size. -/
def IsNumber (cs : List Char) : Prop :=
  ∃ sign ∈ [[], ['-']], ∃ whole fraction exponent, IsWhole whole ∧ IsFraction fraction ∧ IsExponent exponent ∧
    cs = sign ++ (whole ++ (fraction ++ exponent))

/-- An element of an array as it is written, with the blank space around it. -/
structure Element where
  before : List Char
  value : List Char
  after : List Char

/-- A member of an object as it is written. -/
structure Member where
  before : List Char
  /-- What stands between the quotes of the name. -/
  name : List Char
  /-- The blank space before the colon. -/
  behind : List Char
  element : Element

def Element.chars (e : Element) : List Char := e.before ++ (e.value ++ e.after)

def Member.chars (m : Member) : List Char :=
  m.before ++ '"' :: (m.name ++ '"' :: (m.behind ++ ':' :: m.element.chars))

def Element.Spaced (e : Element) : Prop := IsBlank e.before ∧ IsBlank e.after

structure Member.Spaced (m : Member) : Prop where
  before : IsBlank m.before
  behind : IsBlank m.behind
  element : m.element.Spaced

/-- The text of an array with these elements. -/
inductive IsArray : List Element → List Char → Prop
  | empty {blank : List Char} (isBlank : IsBlank blank) : IsArray [] ('[' :: (blank ++ [']']))
  | filled {e : Element} {es : List Element} :
      IsArray (e :: es) ('[' :: (List.intercalate [','] ((e :: es).map Element.chars) ++ [']']))

/-- The text of an object with these members. -/
inductive IsObject : List Member → List Char → Prop
  | empty {blank : List Char} (isBlank : IsBlank blank) : IsObject [] ('{' :: (blank ++ ['}']))
  | filled {m : Member} {ms : List Member} :
      IsObject (m :: ms) ('{' :: (List.intercalate [','] ((m :: ms).map Member.chars) ++ ['}']))

inductive IsValue : List Char → Prop
  | word {cs : List Char} (known : cs ∈ ["null".toList, "true".toList, "false".toList]) : IsValue cs
  | number {cs : List Char} (number : IsNumber cs) : IsValue cs
  | text {body : List Char} (admitted : IsBody body) : IsValue ('"' :: (body ++ ['"']))
  | array {elements : List Element} {cs : List Char} (array : IsArray elements cs)
      (spaced : ∀ e ∈ elements, e.Spaced) (values : ∀ e ∈ elements, IsValue e.value) : IsValue cs
  | object {members : List Member} {cs : List Char} (object : IsObject members cs) (spaced : ∀ m ∈ members, m.Spaced)
      (names : ∀ m ∈ members, IsBody m.name) (values : ∀ m ∈ members, IsValue m.element.value) : IsValue cs

/-! ### How values begin -/

theorem digit_cases {d : Char} (digit : d.isDigit = true) :
    d ∈ ['0', '1', '2', '3', '4', '5', '6', '7', '8', '9'] := by
  rw [Char.isDigit, Bool.and_eq_true, decide_eq_true_iff, decide_eq_true_iff, ge_iff_le, UInt32.le_iff_toNat_le,
    UInt32.le_iff_toNat_le] at digit
  obtain ⟨low, high⟩ : 48 ≤ d.toNat ∧ d.toNat ≤ 57 := digit
  rw [← Char.ofNat_toNat d]
  generalize d.toNat = n at low high
  interval_cases n <;> decide

/-- The first characters of words and numbers. -/
def plainHeads : List Char := ['n', 't', 'f', '-', '0', '1', '2', '3', '4', '5', '6', '7', '8', '9']

theorem IsWhole.head {cs : List Char} (isWhole : IsWhole cs) : ∃ c ∈ plainHeads, ∃ tail, cs = c :: tail := by
  obtain rfl | ⟨⟨filled, digits⟩, -⟩ := isWhole
  · exact ⟨'0', by decide, [], rfl⟩
  · obtain ⟨d, tail, rfl⟩ := List.exists_cons_of_ne_nil filled
    have known := digit_cases (digits d List.mem_cons_self)
    exact ⟨d, List.mem_cons_of_mem _ (List.mem_cons_of_mem _ (List.mem_cons_of_mem _ (List.mem_cons_of_mem _ known))),
      tail, rfl⟩

theorem IsArray.head {elements : List Element} {cs : List Char} (array : IsArray elements cs) :
    ∃ tail, cs = '[' :: tail := by
  cases array <;> exact ⟨_, rfl⟩

theorem IsObject.head {members : List Member} {cs : List Char} (object : IsObject members cs) :
    ∃ tail, cs = '{' :: tail := by
  cases object <;> exact ⟨_, rfl⟩

/-- A value is a word or a number, or else its first character tells what it is. -/
theorem IsValue.head {cs : List Char} (value : IsValue cs) :
    (∃ c ∈ plainHeads, ∃ tail, cs = c :: tail) ∨ (∃ body, IsBody body ∧ cs = '"' :: (body ++ ['"'])) ∨
      (∃ elements, IsArray elements cs ∧ (∀ e ∈ elements, e.Spaced) ∧ ∀ e ∈ elements, IsValue e.value) ∨
      ∃ members, IsObject members cs ∧ (∀ m ∈ members, m.Spaced) ∧ (∀ m ∈ members, IsBody m.name) ∧
        ∀ m ∈ members, IsValue m.element.value := by
  cases value with
  | word known =>
    simp only [List.mem_cons, List.not_mem_nil, or_false] at known
    rcases known with rfl | rfl | rfl <;> exact .inl ⟨_, by decide, _, rfl⟩
  | number number =>
    obtain ⟨sign, signs, whole, fraction, exponent, isWhole, -, -, rfl⟩ := number
    simp only [List.mem_cons, List.not_mem_nil, or_false] at signs
    rcases signs with rfl | rfl
    · obtain ⟨c, known, tail, rfl⟩ := isWhole.head
      exact .inl ⟨c, known, _, rfl⟩
    · exact .inl ⟨'-', by decide, _, rfl⟩
  | text admitted => exact .inr (.inl ⟨_, admitted, rfl⟩)
  | array array spaced values => exact .inr (.inr (.inl ⟨_, array, spaced, values⟩))
  | object object spaced names values => exact .inr (.inr (.inr ⟨_, object, spaced, names, values⟩))

/-! ### Passing over a value -/

namespace Skip
variable {mode : Mode} {stack : List Bracket} {rest : Input}

variable {mode' : Mode} {stack' : List Bracket} {c : Option Char}

theorem run?_step (goes : mode.endsBefore (some c) = false) (stepped : step mode stack c = some (mode', stack')) :
    run? mode stack (c :: rest) = run? mode' stack' rest := by
  rw [run?, goes, Bool.and_false, if_neg (by decide), stepped]

/-- Behind a value inside a bracket. -/
theorem run?_follow {bracket : Bracket} (followed : follow (bracket :: stack) c = some (mode', stack')) :
    run? .done (bracket :: stack) (c :: rest) = run? mode' stack' rest := by
  have stepped : step .done (bracket :: stack) c = some (mode', stack') := followed
  rw [run?, List.isEmpty_cons, Bool.false_and, if_neg (by decide), stepped]

/-- A value that may be over is over. -/
theorem run?_over (ended : mode.endsBefore rest.head? = true) : run? mode stack rest = run? .done stack rest := by
  cases rest with
  | nil =>
    change mode.endsBefore none = true at ended
    simp only [run?, ended]
    rfl
  | cons c rest =>
    change mode.endsBefore (some c) = true at ended
    simp only [run?, step, ended]
    rfl

/-- Blank space is passed over wherever a token may begin. -/
theorem run?_blank {blank : List Char} (isBlank : IsBlank blank)
    (waits : mode ∈ [.value, .opened, .name, .colon] ∨ mode = .done ∧ stack ≠ []) :
    run? mode stack (blank.map some ++ rest) = run? mode stack rest := by
  induction blank with
  | nil => rfl
  | cons c blank ih =>
    refine .trans ?_ (ih fun d member => isBlank d (List.mem_cons_of_mem c member))
    have space := isBlank c List.mem_cons_self
    simp only [List.mem_cons, List.not_mem_nil, or_false] at space waits
    obtain (rfl | rfl | rfl | rfl) | ⟨rfl, inside⟩ := waits
    · rcases space with rfl | rfl | rfl | rfl <;> exact run?_step rfl rfl
    · rcases space with rfl | rfl | rfl | rfl <;> exact run?_step rfl rfl
    · rcases space with rfl | rfl | rfl | rfl <;> exact run?_step rfl rfl
    · rcases space with rfl | rfl | rfl | rfl <;> exact run?_step rfl rfl
    · obtain ⟨bracket, outer, rfl⟩ := List.exists_cons_of_ne_nil inside
      cases bracket <;> rcases space with rfl | rfl | rfl | rfl <;> exact run?_follow rfl

/-! ### Numbers -/

/-- Digits are passed over where digits may stand. -/
theorem run?_digits {digits : List Char} (isDigits : ∀ d ∈ digits, d.isDigit = true)
    (stays : mode ∈ [.whole, .fraction, .exponentDigits]) :
    run? mode stack (digits.map some ++ rest) = run? mode stack rest := by
  induction digits with
  | nil => rfl
  | cons d digits ih =>
    refine .trans ?_ (ih fun e member => isDigits e (List.mem_cons_of_mem d member))
    have digit : isDigit (some d) = true := isDigits d List.mem_cons_self
    simp only [List.mem_cons, List.not_mem_nil, or_false] at stays
    rcases stays with rfl | rfl | rfl <;>
      exact run?_step (by simp [Mode.endsBefore, digit]) (by simp [step, Mode.endsBefore, digit])

/-- What follows a number. -/
structure Delimited (rest : Input) : Prop where
  digit : rest.head?.any isDigit = false
  mark : rest.head? ∉ [some (some '.'), some (some 'e'), some (some 'E')]

theorem Delimited.ends (delimited : Delimited rest) (numeral : mode ∈ [.zero, .whole, .fraction, .exponentDigits]) :
    mode.endsBefore rest.head? = true := by
  obtain ⟨digit, mark⟩ := delimited
  simp only [List.mem_cons, List.not_mem_nil, or_false, not_or] at numeral mark
  rcases numeral with rfl | rfl | rfl | rfl <;> simp [Mode.endsBefore, digit, mark]

/-- The digits of a part of a number: the first of them leads to where the others are passed over. -/
theorem run?_part {digits : List Char} (isDigits : IsDigits digits) (stays : mode' ∈ [.whole, .fraction, .exponentDigits])
    (first : ∀ d, d ∈ ['0', '1', '2', '3', '4', '5', '6', '7', '8', '9'] → digits.head? = some d →
      ∀ rest, run? mode stack (some d :: rest) = run? mode' stack rest) :
    run? mode stack (digits.map some ++ rest) = run? mode' stack rest := by
  obtain ⟨filled, all⟩ := isDigits
  obtain ⟨d, digits, rfl⟩ := List.exists_cons_of_ne_nil filled
  rw [List.map_cons, List.cons_append, first d (digit_cases (all d List.mem_cons_self)) rfl]
  exact run?_digits (fun e member => all e (List.mem_cons_of_mem d member)) stays

theorem run?_exponent {exponent : List Char} (isExponent : IsExponent exponent) (delimited : Delimited rest)
    (numeral : mode ∈ [.zero, .whole, .fraction]) :
    run? mode stack (exponent.map some ++ rest) = run? .done stack rest := by
  obtain rfl | ⟨mark, known, sign, signs, digits, isDigits, rfl⟩ := isExponent
  · refine run?_over (delimited.ends ?_)
    simp only [List.mem_cons, List.not_mem_nil, or_false] at numeral ⊢
    tauto
  · have marked : run? mode stack ((mark :: (sign ++ digits)).map some ++ rest) =
        run? .exponent stack (sign.map some ++ (digits.map some ++ rest)) := by
      rw [List.map_cons, List.map_append, List.cons_append, List.append_assoc]
      simp only [List.mem_cons, List.not_mem_nil, or_false] at numeral known
      rcases numeral with rfl | rfl | rfl <;> rcases known with rfl | rfl <;> exact run?_step rfl rfl
    have signed : run? .exponent stack (sign.map some ++ (digits.map some ++ rest)) =
      run? .exponentDigits stack rest := by
      have counted (at_ : Mode) (stands : at_ ∈ [.exponent, .exponentSign]) :
          run? at_ stack (digits.map some ++ rest) = run? .exponentDigits stack rest := by
        refine run?_part isDigits (by decide) fun d known _ rest => ?_
        simp only [List.mem_cons, List.not_mem_nil, or_false] at stands known
        rcases stands with rfl | rfl <;> rcases known with rfl | rfl | rfl | rfl | rfl | rfl | rfl | rfl | rfl | rfl <;>
          exact run?_step rfl rfl
      simp only [List.mem_cons, List.not_mem_nil, or_false] at signs
      rcases signs with rfl | rfl | rfl
      · exact counted .exponent (by decide)
      · exact (run?_step rfl rfl).trans (counted .exponentSign (by decide))
      · exact (run?_step rfl rfl).trans (counted .exponentSign (by decide))
    rw [marked, signed]
    exact run?_over (delimited.ends (by decide))

theorem run?_fraction {fraction exponent : List Char} (isFraction : IsFraction fraction)
    (isExponent : IsExponent exponent) (delimited : Delimited rest) (numeral : mode ∈ [.zero, .whole]) :
    run? mode stack (fraction.map some ++ (exponent.map some ++ rest)) = run? .done stack rest := by
  simp only [List.mem_cons, List.not_mem_nil, or_false] at numeral
  obtain rfl | ⟨digits, isDigits, rfl⟩ := isFraction
  · refine run?_exponent isExponent delimited ?_
    rcases numeral with rfl | rfl <;> decide
  · have pointed : run? mode stack (('.' :: digits).map some ++ (exponent.map some ++ rest)) =
        run? .point stack (digits.map some ++ (exponent.map some ++ rest)) := by
      rcases numeral with rfl | rfl <;> exact run?_step rfl rfl
    have counted : run? .point stack (digits.map some ++ (exponent.map some ++ rest)) =
        run? .fraction stack (exponent.map some ++ rest) := by
      refine run?_part isDigits (by decide) fun d known _ rest => ?_
      simp only [List.mem_cons, List.not_mem_nil, or_false] at known
      rcases known with rfl | rfl | rfl | rfl | rfl | rfl | rfl | rfl | rfl | rfl <;> exact run?_step rfl rfl
    rw [pointed, counted]
    exact run?_exponent isExponent delimited (by decide)

/-- A number is passed over if what follows does not belong to it. -/
theorem run?_number {cs : List Char} (isNumber : IsNumber cs) (delimited : Delimited rest) :
    run? .value stack (cs.map some ++ rest) = run? .done stack rest := by
  obtain ⟨sign, signs, whole, fraction, exponent, isWhole, isFraction, isExponent, rfl⟩ := isNumber
  have counted (at_ : Mode) (stands : at_ ∈ [.value, .minus]) :
      run? at_ stack (whole.map some ++ (fraction.map some ++ (exponent.map some ++ rest))) = run? .done stack rest := by
    simp only [List.mem_cons, List.not_mem_nil, or_false] at stands
    have ending (mode : Mode) (numeral : mode ∈ [.zero, .whole]) :
        run? mode stack (fraction.map some ++ (exponent.map some ++ rest)) = run? .done stack rest :=
      run?_fraction isFraction isExponent delimited numeral
    obtain rfl | ⟨isDigits, positive⟩ := isWhole
    · refine .trans ?_ (ending .zero (by decide))
      rcases stands with rfl | rfl <;> exact run?_step rfl rfl
    · refine .trans ?_ (ending .whole (by decide))
      refine run?_part isDigits (by decide) fun d known first rest => ?_
      have nonzero : d ≠ '0' := fun zero => positive (zero ▸ first)
      simp only [List.mem_cons, List.not_mem_nil, or_false, nonzero, false_or] at known
      rcases stands with rfl | rfl <;> rcases known with rfl | rfl | rfl | rfl | rfl | rfl | rfl | rfl | rfl <;>
        exact run?_step rfl rfl
  simp only [List.map_append, List.append_assoc]
  simp only [List.mem_cons, List.not_mem_nil, or_false] at signs
  rcases signs with rfl | rfl
  · exact counted .value (by decide)
  · exact (run?_step rfl rfl).trans (counted .minus (by decide))

/-! ### Texts and words -/

theorem run?_word {cs : List Char} (known : cs ∈ ["null".toList, "true".toList, "false".toList]) :
    run? .value stack (cs.map some ++ rest) = run? .done stack rest := by
  simp only [List.mem_cons, List.not_mem_nil, or_false] at known
  rcases known with rfl | rfl | rfl
  · iterate 3 refine (run?_step rfl rfl).trans ?_
    exact run?_step rfl rfl
  · iterate 3 refine (run?_step rfl rfl).trans ?_
    exact run?_step rfl rfl
  · iterate 4 refine (run?_step rfl rfl).trans ?_
    exact run?_step rfl rfl

/-- What stands between quotes is passed over together with the closing quote. -/
theorem run?_body {body : List Char} (admitted : IsBody body) (isName : Bool) :
    run? (.text isName) stack (body.map some ++ some '"' :: rest) =
      run? (if isName then .colon else .done) stack rest := by
  induction admitted with
  | nil => exact run?_step rfl rfl
  | @plain c body plain _ ih =>
    refine .trans (run?_step rfl ?_) ih
    obtain ⟨visible, quote, back⟩ := plain
    simp only [step, Mode.endsBefore, Bool.false_eq_true, if_false]
    exact if_neg (Nat.not_lt.mpr visible)
  | @letter letter c body known _ ih =>
    refine .trans ((run?_step rfl rfl).trans (run?_step rfl ?_)) ih
    simp only [letters, List.mem_cons, Prod.mk.injEq, List.not_mem_nil, or_false] at known
    rcases known with ⟨rfl, -⟩ | ⟨rfl, -⟩ | ⟨rfl, -⟩ | ⟨rfl, -⟩ | ⟨rfl, -⟩ | ⟨rfl, -⟩ | ⟨rfl, -⟩ | ⟨rfl, -⟩ <;> rfl
  | @unit unit digits body written _ ih =>
    obtain ⟨a, b, c, d, rfl, first, second, third, fourth⟩ := Text.four_digits written
    refine .trans ((run?_step rfl rfl).trans (run?_step rfl rfl)) ?_
    have digit {left : Nat} {x : Char} {n : Nat} (value : FeedFanout.Text.Hex.value? x = some n) :
        step (.unicode isName left) stack (some x) =
          some (if left ≤ 1 then .text isName else .unicode isName (left - 1), stack) := by
      simp [step, Mode.endsBefore, value]
    iterate 3 refine (run?_step rfl (digit ‹_›)).trans ?_
    exact (run?_step rfl (digit fourth)).trans ih

/-! ### Arrays, objects and what they hold -/

/-- What comes behind a value inside a bracket. -/
theorem delimited_blank {blank : List Char} (isBlank : IsBlank blank) (mark : c ∈ [some ',', some ']', some '}']) :
    Delimited (blank.map some ++ c :: rest) := by
  simp only [List.mem_cons, List.not_mem_nil, or_false] at mark
  cases blank with
  | nil => rcases mark with rfl | rfl | rfl <;> exact ⟨rfl, by simp⟩
  | cons d blank =>
    have space := isBlank d List.mem_cons_self
    simp only [List.mem_cons, List.not_mem_nil, or_false] at space
    rcases space with rfl | rfl | rfl | rfl <;> exact ⟨rfl, by simp⟩

/-- A value that is passed over, wherever it stands. -/
def Passed (value : List Char) : Prop :=
  ∀ stack rest, Delimited rest → run? .value stack (value.map some ++ rest) = run? .done stack rest

/-- An element with its blank space, up to the mark behind it. -/
theorem run?_element {e : Element} (spaced : e.Spaced) (passed : Passed e.value) {bracket : Bracket}
    (mark : c ∈ [some ',', some ']', some '}']) :
    run? .value (bracket :: stack) (e.chars.map some ++ c :: rest) = run? .done (bracket :: stack) (c :: rest) := by
  simp only [Element.chars, List.map_append, List.append_assoc]
  rw [run?_blank spaced.1 (.inl (by decide)), passed _ _ (delimited_blank spaced.2 mark)]
  exact run?_blank spaced.2 (.inr ⟨rfl, nofun⟩)

/-- A member with its blank space, up to the mark behind it. -/
theorem run?_member {m : Member} (spaced : m.Spaced) (name : IsBody m.name) (passed : Passed m.element.value)
    (mark : c ∈ [some ',', some ']', some '}']) (expects : mode ∈ [.opened, .name]) :
    run? mode (.object :: stack) (m.chars.map some ++ c :: rest) = run? .done (.object :: stack) (c :: rest) := by
  simp only [List.mem_cons, List.not_mem_nil, or_false] at expects
  have blank : run? mode (.object :: stack) (m.before.map some ++ some '"' :: (m.name.map some ++
      some '"' :: (m.behind.map some ++ some ':' :: (m.element.chars.map some ++ c :: rest)))) =
      run? (.text true) (.object :: stack) (m.name.map some ++
        some '"' :: (m.behind.map some ++ some ':' :: (m.element.chars.map some ++ c :: rest))) := by
    rw [run?_blank spaced.before (.inl (by rcases expects with rfl | rfl <;> decide))]
    rcases expects with rfl | rfl <;> exact run?_step rfl rfl
  simp only [Member.chars, List.map_append, List.map_cons, List.append_assoc, List.cons_append]
  rw [blank, run?_body name, if_pos rfl, run?_blank spaced.behind (.inl (by decide))]
  exact (run?_step rfl rfl).trans (run?_element spaced.element passed mark)

theorem run?_elements {e : Element} {es : List Element} (spaced : ∀ x ∈ e :: es, x.Spaced)
    (passed : ∀ x ∈ e :: es, Passed x.value) :
    run? .value (.array :: stack) ((List.intercalate [','] ((e :: es).map Element.chars)).map some ++ some ']' :: rest) =
      run? .done stack rest := by
  induction es generalizing e with
  | nil =>
    simp only [List.map_cons, List.map_nil, List.intercalate_singleton]
    rw [run?_element (spaced e List.mem_cons_self) (passed e List.mem_cons_self) (by decide)]
    exact run?_follow rfl
  | cons next es ih =>
    simp only [List.map_cons, List.intercalate_cons_cons, List.map_append, List.append_assoc, List.cons_append,
      List.nil_append]
    rw [run?_element (spaced e List.mem_cons_self) (passed e List.mem_cons_self) (by decide)]
    exact (run?_follow rfl).trans (ih (fun x member => spaced x (List.mem_cons_of_mem e member))
      fun x member => passed x (List.mem_cons_of_mem e member))

theorem run?_members {m : Member} {ms : List Member} (spaced : ∀ x ∈ m :: ms, x.Spaced)
    (names : ∀ x ∈ m :: ms, IsBody x.name) (passed : ∀ x ∈ m :: ms, Passed x.element.value)
    (expects : mode ∈ [.opened, .name]) :
    run? mode (.object :: stack) ((List.intercalate [','] ((m :: ms).map Member.chars)).map some ++ some '}' :: rest) =
      run? .done stack rest := by
  have first {c : Option Char} (mark : c ∈ [some ',', some ']', some '}']) (rest : Input) :
      run? mode (.object :: stack) (m.chars.map some ++ c :: rest) = run? .done (.object :: stack) (c :: rest) :=
    run?_member (spaced m List.mem_cons_self) (names m List.mem_cons_self) (passed m List.mem_cons_self) mark expects
  induction ms generalizing m mode with
  | nil =>
    simp only [List.map_cons, List.map_nil, List.intercalate_singleton]
    rw [first (by decide)]
    exact run?_follow rfl
  | cons next ms ih =>
    simp only [List.map_cons, List.intercalate_cons_cons, List.map_append, List.append_assoc, List.cons_append,
      List.nil_append]
    rw [first (by decide)]
    have others : ∀ x ∈ next :: ms, x ∈ m :: next :: ms := fun x member => List.mem_cons_of_mem m member
    refine (run?_follow rfl).trans (ih (fun x member => spaced x (others x member))
      (fun x member => names x (others x member)) (fun x member => passed x (others x member)) (by decide) ?_)
    exact fun mark rest => run?_member (spaced _ (others _ List.mem_cons_self)) (names _ (others _ List.mem_cons_self))
      (passed _ (others _ List.mem_cons_self)) mark (by decide)

/-- Behind an opening bracket a first element is passed over as any other. -/
theorem run?_opened {e : Element} (spaced : e.Spaced) (value : IsValue e.value) :
    run? .opened (.array :: stack) (e.chars.map some ++ rest) =
      run? .value (.array :: stack) (e.chars.map some ++ rest) := by
  have started (first : Char) (known : first ∈ '"' :: '[' :: '{' :: plainHeads) (tail : Input) :
      run? .opened (.array :: stack) (some first :: tail) = run? .value (.array :: stack) (some first :: tail) := by
    simp only [plainHeads, List.mem_cons, List.not_mem_nil, or_false] at known
    rcases known with rfl | rfl | rfl | rfl | rfl | rfl | rfl | rfl | rfl | rfl | rfl | rfl | rfl | rfl | rfl | rfl |
      rfl <;>
      rfl
  simp only [Element.chars, List.map_append, List.append_assoc]
  rw [run?_blank spaced.1 (.inl (by decide)), run?_blank spaced.1 (.inl (by decide))]
  obtain ⟨first, known, tail, same⟩ | ⟨body, -, same⟩ | ⟨elements, array, -⟩ | ⟨members, object, -⟩ := value.head
  · rw [same]
    exact started first (List.mem_append_right ['"', '[', '{'] known) _
  · rw [same]
    exact started '"' (by decide) _
  · obtain ⟨tail, same⟩ := array.head
    rw [same]
    exact started '[' (by decide) _
  · obtain ⟨tail, same⟩ := object.head
    rw [same]
    exact started '{' (by decide) _

end Skip

/-- Parts with commas between them begin with the first, and there is a comma for each other. -/
theorem exists_intercalate (part : List Char) (parts : List (List Char)) :
    ∃ tail, List.intercalate [','] (part :: parts) = part ++ tail ∧ parts.length ≤ tail.length := by
  induction parts generalizing part with
  | nil => exact ⟨[], by simp, Nat.le_refl 0⟩
  | cons next parts ih =>
    obtain ⟨tail, same, length⟩ := ih next
    refine ⟨',' :: (next ++ tail), by simp [List.intercalate_cons_cons, same], ?_⟩
    simp only [List.length_cons, List.length_append]
    omega

/-- A value is passed over, whatever is open around it. -/
theorem IsValue.passed {cs : List Char} (value : IsValue cs) : Skip.Passed cs := by
  induction value with
  | word known => exact fun stack rest _ => Skip.run?_word known
  | number number => exact fun stack rest delimited => Skip.run?_number number delimited
  | text admitted =>
    intro stack rest _
    simp only [List.map_cons, List.map_append, List.map_nil, List.cons_append, List.append_assoc, List.nil_append]
    exact (Skip.run?_step rfl rfl).trans (Skip.run?_body admitted false)
  | array array spaced values ih =>
    intro stack rest _
    cases array with
    | empty isBlank =>
      simp only [List.map_cons, List.map_append, List.map_nil, List.cons_append, List.append_assoc, List.nil_append]
      refine (Skip.run?_step rfl rfl).trans ?_
      rw [Skip.run?_blank isBlank (.inl (by decide))]
      exact Skip.run?_step rfl rfl
    | @filled e es =>
      rw [List.map_cons, List.map_append, List.cons_append, List.append_assoc]
      refine (Skip.run?_step rfl rfl).trans (.trans ?_ (Skip.run?_elements spaced ih))
      obtain ⟨tail, same, -⟩ := exists_intercalate e.chars (es.map Element.chars)
      rw [List.map_cons, same, List.map_append, List.append_assoc, List.append_assoc]
      exact Skip.run?_opened (spaced e List.mem_cons_self) (values e List.mem_cons_self)
  | object object spaced names values ih =>
    intro stack rest _
    cases object with
    | empty isBlank =>
      simp only [List.map_cons, List.map_append, List.map_nil, List.cons_append, List.append_assoc, List.nil_append]
      refine (Skip.run?_step rfl rfl).trans ?_
      rw [Skip.run?_blank isBlank (.inl (by decide))]
      exact Skip.run?_step rfl rfl
    | filled =>
      rw [List.map_cons, List.map_append, List.cons_append, List.append_assoc]
      exact (Skip.run?_step rfl rfl).trans (Skip.run?_members spaced names ih (by decide))

/-- What is left when a value and the blank space before it are dropped. -/
theorem IsValue.value? {cs blank : List Char} (value : IsValue cs) (isBlank : IsBlank blank) {rest : Input}
    (delimited : Skip.Delimited rest) : Skip.value? (blank.map some ++ (cs.map some ++ rest)) = some rest := by
  rw [Skip.value?, Skip.run?_blank isBlank (.inl (by decide)), value.passed _ _ delimited]
  cases rest <;> rfl

end FeedFanout.Json
