/-!
Finite tables as lists of keys and values, in the order in which the keys came. `get?_set` says what setting a
key does to every key.
-/
namespace FeedFanout

structure Table (α β : Type) where
  rows : List (α × β)

namespace Table
variable {α β : Type} [DecidableEq α]

def empty : Table α β := ⟨[]⟩

instance : Inhabited (Table α β) := ⟨empty⟩

def keys (t : Table α β) : List α := t.rows.map Prod.fst

def size (t : Table α β) : Nat := t.rows.length

def get? (t : Table α β) (a : α) : Option β := (t.rows.find? (·.1 = a)).map Prod.snd

/-- Replaces the value of a key where it stands, or adds the key at the end. -/
def setRows (a : α) (b : β) : List (α × β) → List (α × β)
  | [] => [(a, b)]
  | (a', b') :: rows => if a' = a then (a, b) :: rows else (a', b') :: setRows a b rows

def set (t : Table α β) (a : α) (b : β) : Table α β := ⟨setRows a b t.rows⟩

def erase (t : Table α β) (a : α) : Table α β := ⟨t.rows.filter (·.1 ≠ a)⟩

@[simp] theorem get?_empty (a : α) : (empty : Table α β).get? a = none := rfl

theorem get?_set (t : Table α β) (a a' : α) (b : β) :
    (t.set a b).get? a' = if a' = a then some b else t.get? a' := by
  obtain ⟨rows⟩ := t
  simp only [set, get?]
  induction rows with
  | nil => by_cases h : a' = a <;> simp [setRows, h, eq_comm]
  | cons row rows ih =>
    obtain ⟨k, v⟩ := row
    by_cases hk : k = a
    · subst hk
      by_cases h : a' = k
      · simp [setRows, h]
      · simp [setRows, h, Ne.symm h]
    · by_cases h : k = a'
      · subst h; simp [setRows, hk]
      · simpa [setRows, hk, h] using ih

@[simp] theorem get?_set_self (t : Table α β) (a : α) (b : β) : (t.set a b).get? a = some b := by simp [get?_set]

theorem get?_erase (t : Table α β) (a a' : α) : (t.erase a).get? a' = if a' = a then none else t.get? a' := by
  obtain ⟨rows⟩ := t
  simp only [erase, get?]
  induction rows with
  | nil => by_cases h : a' = a <;> simp [h]
  | cons row rows ih =>
    obtain ⟨k, v⟩ := row
    by_cases hk : k = a
    · subst hk
      by_cases h : k = a'
      · subst h; simp
      · simpa [h] using ih
    · by_cases h : k = a'
      · subst h; simp [hk]
      · simpa [hk, h] using ih

theorem get?_set_of_ne (t : Table α β) {a a' : α} (b : β) (h : a' ≠ a) : (t.set a b).get? a' = t.get? a' := by
  simp [get?_set, h]

theorem mem_setRows {a : α} {b : β} {rows : List (α × β)} {row : α × β} (member : row ∈ setRows a b rows) :
    row = (a, b) ∨ row ∈ rows := by
  induction rows with
  | nil => exact .inl (List.mem_singleton.mp member)
  | cons other rows ih =>
    unfold setRows at member
    split at member
    · obtain same | later := List.mem_cons.mp member
      · exact .inl same
      · exact .inr (List.mem_cons_of_mem _ later)
    · obtain rfl | later := List.mem_cons.mp member
      · exact .inr List.mem_cons_self
      · exact (ih later).imp id (List.mem_cons_of_mem _)

theorem nodup_setRows (a : α) (b : β) {rows : List (α × β)} (distinct : (rows.map Prod.fst).Nodup) :
    ((setRows a b rows).map Prod.fst).Nodup := by
  induction rows with
  | nil => simp [setRows]
  | cons other rows ih =>
    obtain ⟨fresh, distinct⟩ := List.nodup_cons.mp distinct
    unfold setRows
    split
    · rename_i same
      exact List.nodup_cons.mpr ⟨same ▸ fresh, distinct⟩
    · rename_i different
      refine List.nodup_cons.mpr ⟨?_, ih distinct⟩
      intro member
      obtain ⟨row, among, same⟩ := List.mem_map.mp member
      obtain rfl | among := mem_setRows among
      · exact different same.symm
      · exact fresh (List.mem_map.mpr ⟨row, among, same⟩)

end Table

end FeedFanout
