import TrapKernel.Memory.Error
import TrapKernel.Text.Record

/-!
# Bump memory

Consecutive ranges are handed out from the low end of the region until it is used up, and nothing
is ever taken back.
-/

namespace TrapKernel

/-- A region that is handed out from its low end on. -/
structure Bump where
  capacity : Nat
  /-- The first byte that was not handed out. -/
  used : Nat
  /-- How many ranges were handed out. -/
  allocations : Nat
  deriving DecidableEq, Repr

namespace Bump

/-- A region of `capacity` bytes, none of them handed out. -/
def create (capacity : Nat) : Bump := ⟨capacity, 0, 0⟩

/-- Hand out the next `bytes` bytes. -/
def allocate (m : Bump) (bytes : Nat) : Except MemoryError (Nat × Bump) :=
  if bytes = 0 then .error .zeroSized
  else if m.used + bytes ≤ m.capacity then
    .ok (m.used, { m with used := m.used + bytes, allocations := m.allocations + 1 })
  else .error (.outOfMemory bytes (m.capacity - m.used))

/-- Nothing is taken back, wherever it lies. -/
def free (_ : Bump) (_address : Nat) : Except MemoryError Bump := .error .freeUnsupported

/-- The text that shows a bump region. -/
def debug (m : Bump) : String :=
  Text.record "BumpMemory" [("capacity", toString m.capacity), ("next", toString m.used),
    ("allocations", toString m.allocations)]

end Bump

end TrapKernel
