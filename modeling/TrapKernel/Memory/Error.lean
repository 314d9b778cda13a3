import TrapKernel.Text.Hex

/-!
# Memory errors

The reasons for which memory is refused, and the sentence that tells each.
-/

namespace TrapKernel

/-- Why memory was not handed out or not taken back. -/
inductive MemoryError where
  /-- Nothing was asked for. -/
  | zeroSized
  /-- No free range is large enough; `largest` is the most that would be granted. -/
  | outOfMemory (requested largest : Nat)
  /-- The address was not handed out, or was taken back already. -/
  | invalidAddress (address : Nat)
  /-- The region has no room for a single block. -/
  | regionTooSmall (size : Nat)
  /-- The region is too large for 32-bit offsets. -/
  | regionTooLarge (size : Nat)
  /-- This memory takes nothing back. -/
  | freeUnsupported
  /-- The tags in the region contradict each other. -/
  | corrupt (offset : Nat) (reason : String)
  deriving DecidableEq, Repr

/-- The sentence that reports an error. -/
def MemoryError.message : MemoryError → String
  | zeroSized => "zero-sized allocation request"
  | outOfMemory requested largest =>
    s!"out of memory: requested {requested} bytes, largest free block is {largest} bytes"
  | invalidAddress address => s!"address {Text.hex address} is not an allocated block"
  | regionTooSmall size => s!"region of {size} bytes cannot hold a single block"
  | regionTooLarge size => s!"region of {size} bytes exceeds 32-bit block addressing"
  | freeUnsupported => "this memory capability never frees"
  | corrupt offset reason => s!"heap corrupted at offset {Text.hex offset}: {reason}"

end TrapKernel
