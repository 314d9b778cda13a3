import Mathlib.Data.Nat.ModEq
import TrapKernel.Serial.Ring

/-!
# What waits in a ring

A ring as the list of the bytes that wait, the oldest first. Storing a byte puts it behind the
others, taking one removes the first. That a new byte does not land on one that waits needs the ring
to be `Aligned`: the next byte goes to the cell behind the last one.
-/

namespace TrapKernel

namespace Ring

variable {capacity : Nat} {r : Ring capacity} {byte : UInt8}

/-- The byte that waits behind `i` others. -/
def byteAt (r : Ring capacity) (i : Nat) : UInt8 := r.cells[(r.tail + i) % capacity]?.getD 0

/-- The bytes that wait, the oldest first. -/
def toList (r : Ring capacity) : List UInt8 := (List.range r.length).map r.byteAt

/-- The next byte goes to the cell behind the last one that waits. -/
def Aligned (r : Ring capacity) : Prop := r.head = (r.tail + r.length) % capacity

@[simp] theorem length_toList : r.toList.length = r.length := by simp [toList]

theorem toList_eq_nil (none : r.length = 0) : r.toList = [] := by simp [toList, none]

@[simp] theorem toList_clear (r : Ring capacity) : r.clear.toList = [] := toList_eq_nil rfl

theorem aligned_clear (r : Ring capacity) : r.clear.Aligned := (Nat.zero_mod capacity).symm

/-- The cells of the bytes that wait are different ones, and so is the next free one. -/
theorem cells_apart {i j : Nat} (lt : i < capacity) (lt' : j < capacity)
    (same : (r.tail + i) % capacity = (r.tail + j) % capacity) : i = j :=
  Nat.ModEq.eq_of_lt_of_lt (Nat.ModEq.add_left_cancel' r.tail same) lt lt'

/-- A byte for which there is room waits behind the others. -/
theorem store_room (aligned : r.Aligned) (room : r.length < capacity) (byte : UInt8) :
    (r.store byte).2.Aligned ∧ (r.store byte).2.toList = r.toList ++ [byte] ∧
      (r.store byte).2.dropped = r.dropped := by
  have notFull : r.length ≠ capacity := Nat.ne_of_lt room
  have pos : 0 < capacity := Nat.zero_lt_of_lt room
  unfold store
  rw [dif_neg notFull]
  refine ⟨?_, ?_, rfl⟩
  · rw [Aligned] at aligned ⊢
    simp only [aligned, Nat.mod_add_mod, Nat.add_assoc]
  · simp only [toList, List.range_succ, List.map_append, List.map_cons, List.map_nil]
    congr 1
    · apply List.map_congr_left
      intro i hi
      have lt : i < r.length := List.mem_range.mp hi
      have apart : r.head ≠ (r.tail + i) % capacity := by
        rw [aligned]
        intro same
        exact Nat.ne_of_gt lt (cells_apart room (Nat.lt_trans lt room) same)
      simp only [byteAt, Vector.getElem?_set_ne (r.head_lt pos) apart]
    · have here : (r.tail + r.length) % capacity = r.head := aligned.symm
      simp only [byteAt, here, Vector.getElem?_set_self, Option.getD_some]

/-- A byte for which there is no room is dropped. -/
theorem store_full (aligned : r.Aligned) (full : r.length = capacity) (byte : UInt8) :
    (r.store byte).2.Aligned ∧ (r.store byte).2.toList = r.toList ∧
      (r.store byte).2.dropped = r.dropped + 1 := by
  unfold store
  rw [dif_pos full]
  exact ⟨aligned, rfl, rfl⟩

/-- The first of the bytes that wait is taken. -/
theorem take_cases (r : Ring capacity) : r.toList = [] ∧ r.take = (none, r) ∨
    ∃ byte r', r.take = (some byte, r') ∧ r.toList = byte :: r'.toList ∧
      (r.Aligned → r'.Aligned) ∧ r'.dropped = r.dropped := by
  by_cases none : r.length = 0
  · left
    refine ⟨toList_eq_nil none, ?_⟩
    rw [take, dif_pos none]
  · right
    have pos : 0 < capacity := Nat.lt_of_lt_of_le (Nat.pos_of_ne_zero none) r.length_le
    obtain ⟨rest, length⟩ := Nat.exists_eq_succ_of_ne_zero none
    have bound := r.tail_lt pos
    have first : r.byteAt 0 = r.cells[r.tail] := by
      rw [byteAt, Nat.add_zero, Nat.mod_eq_of_lt bound, Vector.getElem?_eq_getElem bound,
        Option.getD_some]
    rw [take, dif_neg none]
    refine ⟨_, _, rfl, ?_, ?_, rfl⟩
    · simp only [toList, length, Nat.succ_sub_one, List.range_succ_eq_map, List.map_cons, first,
        List.map_map]
      congr 1
      apply List.map_congr_left
      intro i _
      simp only [Function.comp_apply, byteAt, Nat.mod_add_mod]
      rw [Nat.succ_eq_add_one, Nat.add_assoc, Nat.add_comm 1 i]
    · intro aligned
      rw [Aligned] at aligned ⊢
      simp only [aligned, Nat.mod_add_mod, length]
      congr 1
      omega

end Ring

end TrapKernel
