import FeedFanout.Id

/-!
Sets of identifiers, kept as strictly ascending lists. `mem_insert` says what insertion does.
-/
namespace FeedFanout

structure IdSet (role : Role) where
  toList : List (Id role)
  ascending : toList.Pairwise (· < ·)

namespace IdSet
variable {role : Role}

def insertList (x : Id role) : List (Id role) → List (Id role)
  | [] => [x]
  | y :: ys => if x < y then x :: y :: ys else if y < x then y :: insertList x ys else y :: ys

private theorem lt_trans' {a b c : Id role} (h : a < b) (h' : b < c) : a < c := Fin.lt_trans h h'

private theorem eq_of_not_lt {a b : Id role} (h : ¬ a < b) (h' : ¬ b < a) : a = b := by
  obtain ⟨a⟩ := a; obtain ⟨b⟩ := b
  have h : ¬ a < b := h
  have h' : ¬ b < a := h'
  have : a = b := by omega
  rw [this]

theorem mem_insertList {x z : Id role} {xs : List (Id role)} : z ∈ insertList x xs ↔ z = x ∨ z ∈ xs := by
  induction xs with
  | nil => simp [insertList]
  | cons y ys ih =>
    simp only [insertList]
    split
    · simp
    · split
      · simp [ih, or_left_comm]
      · have : x = y := eq_of_not_lt ‹_› ‹_›
        simp [this]

theorem ascending_insertList {x : Id role} {xs : List (Id role)} (h : xs.Pairwise (· < ·)) :
    (insertList x xs).Pairwise (· < ·) := by
  induction xs with
  | nil => simp [insertList]
  | cons y ys ih =>
    obtain ⟨hy, hys⟩ := List.pairwise_cons.1 h
    simp only [insertList]
    split
    · refine List.pairwise_cons.2 ⟨fun z hz => ?_, h⟩
      rcases List.mem_cons.1 hz with rfl | hz
      · assumption
      · exact lt_trans' ‹_› (hy z hz)
    · split
      · refine List.pairwise_cons.2 ⟨fun z hz => ?_, ih hys⟩
        rcases mem_insertList.1 hz with rfl | hz
        · assumption
        · exact hy z hz
      · exact h

def empty : IdSet role := ⟨[], List.Pairwise.nil⟩

instance : Inhabited (IdSet role) := ⟨empty⟩

instance : Membership (Id role) (IdSet role) := ⟨fun s x => x ∈ s.toList⟩

instance (x : Id role) (s : IdSet role) : Decidable (x ∈ s) := inferInstanceAs (Decidable (x ∈ s.toList))

def insert (s : IdSet role) (x : Id role) : IdSet role := ⟨insertList x s.toList, ascending_insertList s.ascending⟩

def ofList (xs : List (Id role)) : IdSet role := xs.foldl insert empty

theorem mem_def {x : Id role} {s : IdSet role} : x ∈ s ↔ x ∈ s.toList := Iff.rfl

@[simp] theorem not_mem_empty (x : Id role) : x ∉ (empty : IdSet role) := List.not_mem_nil

@[simp] theorem mem_insert {x z : Id role} {s : IdSet role} : z ∈ s.insert x ↔ z = x ∨ z ∈ s := mem_insertList

end IdSet

end FeedFanout
