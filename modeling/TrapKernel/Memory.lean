import TrapKernel.Memory.Bump
import TrapKernel.Memory.Heap

/-!
# Memory

The memory from which a kernel takes its records: a heap, or a bump region that never takes
anything back. Records are named by the addresses that `allocate` answered.
-/

namespace TrapKernel

/-- Where records get their bytes. -/
inductive Memory where
  | heap (heap : Heap)
  | bump (bump : Bump)

namespace Memory

/-- Hand out `bytes` bytes. -/
def allocate : Memory → Nat → Except MemoryError (Nat × Memory)
  | heap h, bytes => do
    let (address, h) ← h.allocate bytes
    return (address, heap h)
  | bump m, bytes => do
    let (address, m) ← m.allocate bytes
    return (address, bump m)

/-- Take back what was handed out at `address`. -/
def free : Memory → Nat → Except MemoryError Memory
  | heap h, address => heap <$> h.free address
  | bump m, address => bump <$> m.free address

/-- Take back what was handed out at `address`; a refusal leaves the memory as it is. -/
def release (m : Memory) (address : Nat) : Memory :=
  match m.free address with
  | .ok m => m
  | .error _ => m

/-- The heap, if there is one. -/
def heap? : Memory → Option Heap
  | heap h => some h
  | bump _ => none

/-- The text that shows the memory. -/
def debug : Memory → String
  | heap h => "Heap(" ++ h.debug ++ ")"
  | bump m => "Bump(" ++ m.debug ++ ")"

end Memory

end TrapKernel
