import FeedFanout.Live.Channel
import Mathlib.Algebra.GroupWithZero.Nat
import Mathlib.Data.List.Infix

/-!
Receivers of a broadcast channel. A receiver has still to get the messages sent behind its position
(`Channel.Follows`), and what it gets next depends on those alone (`Channel.receive_eq`). Its receipts account for every
message that it has passed (`Explains`).
-/
namespace FeedFanout.Live

/-- A channel keeps as many messages as it was asked to, and perhaps more. -/
theorem le_powerFrom (n : Nat) : n ≤ powerFrom n := by
  have less : n - 1 < 2 ^ ((n - 1).log2 + 1) := Nat.lt_log2_self
  rw [Nat.pow_succ] at less
  unfold powerFrom
  split
  · omega
  · omega

variable {α : Type}

/-! ### Receipts -/

namespace Receipt

def message? : Receipt α → Option α
  | message value => some value
  | _ => none

/-- How many messages were missed. -/
def missed : Receipt α → Nat
  | lagged missed => missed
  | _ => 0

/-- How many messages the receiver is done with. -/
def taken : Receipt α → Nat
  | message _ => 1
  | lagged missed => missed
  | _ => 0

/-- What a receiver gets that has still to get these messages. -/
def next (retention : Nat) (isOpen : Bool) : List α → Receipt α
  | [] => if isOpen then empty else closed
  | value :: rest => if retention < rest.length + 1 then lagged (rest.length + 1 - retention) else message value

theorem next_cons (retention : Nat) (isOpen : Bool) (value : α) (rest : List α) :
    next retention isOpen (value :: rest) =
      if retention < rest.length + 1 then lagged (rest.length + 1 - retention) else message value := rfl

theorem taken_next_le (retention : Nat) (isOpen : Bool) (rest : List α) :
    (next retention isOpen rest).taken ≤ rest.length := by
  cases rest with
  | nil => cases isOpen <;> exact Nat.le_refl 0
  | cons value rest =>
    rw [next_cons]
    split
    · exact Nat.sub_le ..
    · exact Nat.succ_le_succ (Nat.zero_le _)

/-- A receiver that is not behind what is kept misses nothing. -/
theorem missed_next {retention : Nat} {rest : List α} (near : rest.length ≤ retention) (isOpen : Bool) :
    (next retention isOpen rest).missed = 0 := by
  cases rest with
  | nil => cases isOpen <;> rfl
  | cons value rest =>
    have kept : ¬retention < rest.length + 1 := Nat.not_lt.mpr near
    rw [next_cons, if_neg kept]
    rfl

end Receipt

/-- The messages among receipts. -/
def received (receipts : List (Receipt α)) : List α := receipts.filterMap Receipt.message?

/-- How many messages were missed by receipts. -/
def missedIn (receipts : List (Receipt α)) : Nat := (receipts.map Receipt.missed).sum

/-- How many messages the receiver is done with by receipts. -/
def takenIn (receipts : List (Receipt α)) : Nat := (receipts.map Receipt.taken).sum

theorem takenIn_append (receipts : List (Receipt α)) (receipt : Receipt α) :
    takenIn (receipts ++ [receipt]) = takenIn receipts + receipt.taken := by
  simp [takenIn]

theorem missedIn_append (receipts : List (Receipt α)) (receipt : Receipt α) :
    missedIn (receipts ++ [receipt]) = missedIn receipts + receipt.missed := by
  simp [missedIn]

theorem received_append (receipts : List (Receipt α)) (receipt : Receipt α) :
    received (receipts ++ [receipt]) = received receipts ++ receipt.message?.toList := by
  cases given : receipt.message? <;> simp [received, given]

theorem takenIn_eq (receipts : List (Receipt α)) :
    takenIn receipts = (received receipts).length + missedIn receipts := by
  induction receipts with
  | nil => rfl
  | cons receipt receipts ih =>
    have first : takenIn (receipt :: receipts) = receipt.taken + takenIn receipts := by simp [takenIn]
    have missed : missedIn (receipt :: receipts) = receipt.missed + missedIn receipts := by simp [missedIn]
    have given : (received (receipt :: receipts)).length =
        receipt.message?.toList.length + (received receipts).length := by
      cases message : receipt.message? <;> simp [received, message, Nat.add_comm]
    have one : receipt.taken = receipt.message?.toList.length + receipt.missed := by
      cases receipt <;> simp [Receipt.taken, Receipt.message?, Receipt.missed]
    omega

/-- Receipts and the messages that they account for, each received, or missed with those next to it. -/
inductive Explains : List (Receipt α) → List α → Prop
  | none : Explains [] []
  | message {receipts : List (Receipt α)} {passed : List α} (value : α) (before : Explains receipts passed) :
      Explains (receipts ++ [.message value]) (passed ++ [value])
  | lagged {receipts : List (Receipt α)} {passed : List α} (lost : List α) (before : Explains receipts passed) :
      Explains (receipts ++ [.lagged lost.length]) (passed ++ lost)
  | empty {receipts : List (Receipt α)} {passed : List α} (before : Explains receipts passed) :
      Explains (receipts ++ [.empty]) passed
  | closed {receipts : List (Receipt α)} {passed : List α} (before : Explains receipts passed) :
      Explains (receipts ++ [.closed]) passed

namespace Explains
variable {receipts : List (Receipt α)} {passed : List α}

theorem next (explains : Explains receipts passed) (retention : Nat) (isOpen : Bool) (rest : List α) :
    Explains (receipts ++ [.next retention isOpen rest])
      (passed ++ rest.take (Receipt.next retention isOpen rest).taken) := by
  cases rest with
  | nil =>
    rw [List.take_nil, List.append_nil]
    cases isOpen with
    | true => exact .empty explains
    | false => exact .closed explains
  | cons value rest =>
    rw [Receipt.next_cons]
    split
    · have lost := Explains.lagged ((value :: rest).take (rest.length + 1 - retention)) explains
      rwa [List.length_take, List.length_cons, Nat.min_eq_left (Nat.sub_le ..)] at lost
    · exact .message value explains

theorem length (explains : Explains receipts passed) : passed.length = takenIn receipts := by
  induction explains with
  | none => rfl
  | message value before ih => rw [takenIn_append, List.length_append, ih]; rfl
  | lagged lost before ih => rw [takenIn_append, List.length_append, ih]; rfl
  | empty before ih => rw [takenIn_append, ih]; rfl
  | closed before ih => rw [takenIn_append, ih]; rfl

/-- Messages are received in order. -/
theorem sublist (explains : Explains receipts passed) : (received receipts).Sublist passed := by
  induction explains with
  | none => exact .slnil
  | message value before ih => rw [received_append]; exact ih.append (.refl _)
  | lagged lost before ih =>
    rw [received_append]
    exact ih.append (List.nil_sublist lost)
  | empty before ih => rw [received_append]; exact (List.append_nil _).symm ▸ ih
  | closed before ih => rw [received_append]; exact (List.append_nil _).symm ▸ ih

/-- Where nothing was missed, everything was received. -/
theorem all (explains : Explains receipts passed) (none : missedIn receipts = 0) : received receipts = passed := by
  refine explains.sublist.eq_of_length ?_
  rw [explains.length, takenIn_eq, none, Nat.add_zero]

end Explains

/-! ### Positions -/

namespace Channel
variable {c c' : Channel α} {position : Nat} {rest : List α}

/-- The channel keeps as many of its messages as it can. -/
def Full (c : Channel α) : Prop := c.kept.length = min c.sent c.retention

/-- A receiver at a position has still to get these messages. The channel keeps the latest of them. -/
structure Follows (c : Channel α) (position : Nat) (rest : List α) : Prop where
  behind : position + rest.length = c.sent
  kept : rest.reverse.take c.retention <+: c.kept

theorem open?_eq_some {capacity : Nat} (opens : open? capacity = some c) :
    c = ⟨powerFrom capacity, 0, [], 0, true⟩ ∧ capacity ≤ largestCapacity := by
  unfold open? at opens
  split at opens
  · cases opens
  · exact ⟨(Option.some.inj opens).symm, by omega⟩

theorem follows_attach (c : Channel α) : Follows c.attach.1 c.attach.2 [] := ⟨rfl, by simp⟩

theorem receive_eq (full : c.Full) (follows : c.Follows position rest) :
    c.receive position =
      (.next c.retention c.isOpen rest, position + (Receipt.next c.retention c.isOpen rest).taken) := by
  obtain ⟨behind, kept⟩ := follows
  cases rest with
  | nil =>
    have caught : c.sent ≤ position := by simp at behind; omega
    rw [receive, if_pos caught, Receipt.next]
    cases c.isOpen <;> rfl
  | cons value rest =>
    rw [List.length_cons] at behind
    have more : ¬c.sent ≤ position := by omega
    unfold Full at full
    rw [receive, if_neg more, Receipt.next_cons]
    by_cases late : c.retention < rest.length + 1
    · have before : position < c.sent - c.kept.length := by omega
      have count : c.sent - c.kept.length - position = rest.length + 1 - c.retention := by omega
      have moved : c.sent - c.kept.length = position + (rest.length + 1 - c.retention) := by omega
      simp only [if_pos before, if_pos late, count]
      rw [moved]
      rfl
    · have inside : ¬position < c.sent - c.kept.length := by omega
      have index : c.sent - 1 - position = rest.length := by omega
      have whole : (value :: rest).reverse <+: c.kept := by
        rwa [List.take_of_length_le (by simp; omega)] at kept
      have held : c.kept[rest.length]? = some value := by
        rw [List.reverse_cons] at whole
        obtain ⟨older, same⟩ := whole
        simp [← same]
      simp only [if_neg inside, if_neg late, index, held]
      rfl

/-- A receiver that is done with some messages has still to get the others. -/
theorem Follows.drop (follows : c.Follows position rest) {n : Nat} (some : n ≤ rest.length) :
    c.Follows (position + n) (rest.drop n) := by
  refine ⟨?_, ?_⟩
  · rw [List.length_drop, ← follows.behind]
    omega
  · rw [List.reverse_drop, List.take_take, Nat.min_comm, ← List.take_take]
    exact (List.take_prefix ..).trans follows.kept

theorem send?_eq_some {value : α} (sent : c.send? value = some c') :
    c' = { c with sent := c.sent + 1, kept := (value :: c.kept).take c.retention } := by
  unfold send? at sent
  split at sent
  · cases sent
  · exact (Option.some.inj sent).symm

theorem Full.send (full : c.Full) {value : α} (sent : c.send? value = some c') : c'.Full := by
  obtain rfl := send?_eq_some sent
  unfold Full at full ⊢
  simp only [List.length_take, List.length_cons, full]
  omega

/-- A message sent is one more to get. -/
theorem Follows.send (follows : c.Follows position rest) {value : α} (sent : c.send? value = some c') :
    c'.Follows position (rest ++ [value]) := by
  obtain rfl := send?_eq_some sent
  refine ⟨?_, ?_⟩
  · rw [List.length_append, ← Nat.add_assoc, follows.behind]
    rfl
  · rw [List.reverse_append]
    cases room : c.retention with
    | zero => simp
    | succ retention =>
      have held := follows.kept.take retention
      rw [List.take_take, room, Nat.min_eq_left (Nat.le_succ _)] at held
      exact (List.prefix_cons_inj value).mpr held

end Channel
end FeedFanout.Live
