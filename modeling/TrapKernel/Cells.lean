import Std.Data.TreeMap

/-!
# Cells

A store of numbered cells, each of which holds a value from the start. Only the cells that were
written take room, so a store of four billion bytes costs nothing before its first use. The one
law, `get_set`, says that a write is seen at its own number and nowhere else.
-/

namespace TrapKernel

/-- A store of cells numbered by the natural numbers. A cell that was never written holds
`default`. -/
structure Cells (α : Type) where
  written : Std.TreeMap Nat α

namespace Cells

variable {α : Type}

/-- The store in which every cell holds `default`. -/
def blank : Cells α := ⟨∅⟩

/-- The value of cell `i`. -/
def get [Inhabited α] (c : Cells α) (i : Nat) : α := c.written.getD i default

/-- Write `a` into cell `i`. -/
def set (c : Cells α) (i : Nat) (a : α) : Cells α := ⟨c.written.insert i a⟩

/-- Apply `f` to the value of cell `i`. -/
def modify [Inhabited α] (c : Cells α) (i : Nat) (f : α → α) : Cells α := c.set i (f (c.get i))

variable [Inhabited α]

@[simp] theorem get_blank (i : Nat) : (blank : Cells α).get i = default := by
  simp [blank, get]

theorem get_set (c : Cells α) (i j : Nat) (a : α) :
    (c.set i a).get j = if i = j then a else c.get j := by
  simp [get, set, Std.TreeMap.getD_insert]

@[simp] theorem get_set_self (c : Cells α) (i : Nat) (a : α) : (c.set i a).get i = a := by
  simp [get_set]

theorem get_set_of_ne (c : Cells α) {i j : Nat} (a : α) (h : i ≠ j) :
    (c.set i a).get j = c.get j := by
  simp [get_set, h]

end Cells

end TrapKernel
