import FeedFanout.Proofs.Requests
import FeedFanout.Proofs.WireForm

/-!
Posts in the reply to a read of a feed. An array tells its elements in one way only (`IsArray.unique`), and those of
the reply are the wire forms of the posts (`isArray_postsBody`).
-/
namespace FeedFanout.Json

/-! ### Elements of arrays -/

/-- An element, with its blank space, as far as the mark behind it. -/
theorem Element.unique {e e' : Element} (spaced : e.Spaced) (spaced' : e'.Spaced) (value : IsValue e.value)
    (value' : IsValue e'.value) {c c' : Char} (mark : c ∈ [',', ']']) (mark' : c' ∈ [',', ']']) {tail tail' : List Char}
    (same : e.chars ++ c :: tail = e'.chars ++ c' :: tail') : e = e' ∧ c :: tail = c' :: tail' := by
  have injective : Function.Injective (List.map (some : Char → Option Char)) :=
    List.map_injective_iff.mpr (Option.some_injective _)
  obtain ⟨before, text, after⟩ := e
  obtain ⟨before', text', after'⟩ := e'
  have read : before.map some ++ (text.map some ++ (after.map some ++ some c :: tail.map some)) =
      before'.map some ++ (text'.map some ++ (after'.map some ++ some c' :: tail'.map some)) := by
    simpa [Element.chars] using congrArg (List.map some) same
  have delimited {blank : List Char} (isBlank : IsBlank blank) {c : Char} (mark : c ∈ [',', ']']) (tail : List Char) :
      Skip.Delimited (blank.map some ++ some c :: tail.map some) := by
    refine Skip.delimited_blank isBlank ?_
    simp only [List.mem_cons, List.not_mem_nil, or_false] at mark
    rcases mark with rfl | rfl <;> decide
  -- Both values are passed over, so what follows them is the same.
  have passed := value.value? spaced.1 (delimited spaced.2 mark tail)
  rw [read, value'.value? spaced'.1 (delimited spaced'.2 mark' tail'), Option.some.injEq] at passed
  have begun := (Format.skipSpace_value value spaced.1 (after.map some ++ some c :: tail.map some)).1
  rw [read, (Format.skipSpace_value value' spaced'.1 _).1, passed] at begun
  obtain rfl : text' = text := injective (List.append_cancel_right begun)
  rw [passed] at read
  obtain rfl : before = before' := injective (List.append_cancel_right read)
  have visible {c : Char} (mark : c ∈ [',', ']']) : isSpace (some c) = false := by
    simp only [List.mem_cons, List.not_mem_nil, or_false] at mark
    rcases mark with rfl | rfl <;> rfl
  have ended := congrArg skipSpace passed
  rw [skipSpace_blank spaced'.2, skipSpace_blank spaced.2, skipSpace_some (visible mark),
    skipSpace_some (visible mark')] at ended
  rw [ended] at passed
  obtain rfl : after' = after := injective (List.append_cancel_right passed)
  exact ⟨rfl, injective ended.symm⟩

/-- The elements behind one, up to the bracket. -/
def behindOne (es : List Element) : List Char := (es.map fun e => ',' :: e.chars).flatten ++ [']']

theorem behindOne_cons (e : Element) (es : List Element) : behindOne (e :: es) = ',' :: (e.chars ++ behindOne es) := by
  simp [behindOne]

theorem exists_mark (es : List Element) : ∃ c ∈ [',', ']'], ∃ tail, behindOne es = c :: tail := by
  cases es with
  | nil => exact ⟨']', by decide, [], rfl⟩
  | cons e es => exact ⟨',', by decide, _, behindOne_cons e es⟩

theorem elements_unique {e e' : Element} {es es' : List Element} (spaced : ∀ x ∈ e :: es, x.Spaced)
    (spaced' : ∀ x ∈ e' :: es', x.Spaced) (values : ∀ x ∈ e :: es, IsValue x.value)
    (values' : ∀ x ∈ e' :: es', IsValue x.value) (same : e.chars ++ behindOne es = e'.chars ++ behindOne es') :
    e :: es = e' :: es' := by
  induction es generalizing e e' es' with
  | nil =>
    obtain ⟨c, mark, tail, eq⟩ := exists_mark es'
    rw [eq] at same
    obtain ⟨rfl, ended⟩ := Element.unique (spaced _ List.mem_cons_self) (spaced' _ List.mem_cons_self)
      (values _ List.mem_cons_self) (values' _ List.mem_cons_self) (c := ']') (by decide) mark same
    cases es' with
    | nil => rfl
    | cons next es' =>
      rw [behindOne_cons, ← ended] at eq
      cases eq
  | cons next es ih =>
    obtain ⟨c, mark, tail, eq⟩ := exists_mark es'
    rw [eq, behindOne_cons] at same
    obtain ⟨rfl, ended⟩ := Element.unique (spaced _ List.mem_cons_self) (spaced' _ List.mem_cons_self)
      (values _ List.mem_cons_self) (values' _ List.mem_cons_self) (c := ',') (by decide) mark same
    cases es' with
    | nil =>
      rw [← ended] at eq
      cases eq
    | cons next' es' =>
      rw [← ended, behindOne_cons, List.cons.injEq] at eq
      exact congrArg _ (ih (fun x member => spaced x (List.mem_cons_of_mem _ member))
        (fun x member => spaced' x (List.mem_cons_of_mem _ member))
        (fun x member => values x (List.mem_cons_of_mem _ member))
        (fun x member => values' x (List.mem_cons_of_mem _ member)) eq.2.symm)

/-- An array with elements is not empty. -/
theorem ne_of_empty {blank : List Char} (isBlank : IsBlank blank) {e : Element} (spaced : e.Spaced)
    (value : IsValue e.value) (es : List Element) : blank ++ [']'] ≠ e.chars ++ behindOne es := by
  intro same
  obtain ⟨begun, open_, -⟩ := Format.skipSpace_value value spaced.1 ((e.after ++ behindOne es).map some)
  have read : blank.map some ++ [some ']'] =
    e.before.map some ++ (e.value.map some ++ (e.after ++ behindOne es).map some) := by
    simpa [Element.chars] using congrArg (List.map some) same
  rw [← read, skipSpace_blank isBlank, skipSpace_some (by rfl)] at begun
  rw [← begun] at open_
  exact open_ rfl

/-- An array has only these elements. -/
theorem IsArray.unique {es es' : List Element} {cs : List Char} (array : IsArray es cs) (array' : IsArray es' cs)
    (spaced : ∀ x ∈ es, x.Spaced) (spaced' : ∀ x ∈ es', x.Spaced) (values : ∀ x ∈ es, IsValue x.value)
    (values' : ∀ x ∈ es', IsValue x.value) : es = es' := by
  have written (e : Element) (es : List Element) :
      List.intercalate [','] ((e :: es).map Element.chars) ++ [']'] = e.chars ++ behindOne es := by
    rw [Format.intercalate_elements, behindOne, List.append_assoc]
  generalize text : cs = cs' at array'
  cases array with
  | empty isBlank =>
    cases array' with
    | empty => rfl
    | filled =>
      rw [written, List.cons.injEq] at text
      exact absurd text.2 (ne_of_empty isBlank (spaced' _ List.mem_cons_self) (values' _ List.mem_cons_self) _)
  | filled =>
    cases array' with
    | empty isBlank =>
      rw [written, List.cons.injEq] at text
      exact absurd text.2.symm (ne_of_empty isBlank (spaced _ List.mem_cons_self) (values _ List.mem_cons_self) _)
    | filled =>
      rw [written, written, List.cons.injEq] at text
      exact elements_unique spaced spaced' values values' text.2

end FeedFanout.Json

namespace FeedFanout.Http
open Json (Element IsArray IsValue)

/-! ### The reply -/

/-- A post among others in an array. -/
def element (post : Post) : Element := ⟨[], post.wireChars, []⟩

theorem chars_element (post : Post) : (element post).chars = post.wireChars := by simp [element, Element.chars]

theorem spaced_elements (posts : List Post) : ∀ e ∈ posts.map element, e.Spaced := by
  refine List.forall_mem_map.mpr fun post _ => ⟨nofun, nofun⟩

theorem isValue_elements (posts : List Post) : ∀ e ∈ posts.map element, IsValue e.value :=
  List.forall_mem_map.mpr fun post _ => post.isValue_wireChars

/-- Posts are printed in their wire form. -/
theorem isArray_postsBody (posts : List Post) : IsArray (posts.map element) (postsBody posts).toList := by
  have text : (postsBody posts).toList =
    '[' :: (List.intercalate [','] ((posts.map element).map Element.chars) ++ [']']) := by
    simp [postsBody, chars_element, Function.comp_def, Post.wire]
  rw [text]
  cases posts with
  | nil =>
    have unspaced : Json.IsBlank [] := List.forall_mem_nil _
    exact .empty unspaced
  | cons post posts => exact .filled

end FeedFanout.Http
