import TrapKernel.Proofs.Memory.Ledger

/-!
# The gaps between the blocks in use

What is free in a heap follows from what is in use: between two neighbouring blocks in use there is
one free block, or nothing. `withGaps` finds all blocks from those in use, and so two heaps with the
same blocks in use have the same free ones, by whatever calls they came to them.
-/

namespace TrapKernel

/-- The free block between two blocks in use, unless they touch. -/
def gap (off limit : Nat) : List Block :=
  if off < limit then [⟨off, .free, limit - (off + overhead)⟩] else []

/-- The blocks from `off` to `limit` of which those of `used` are in use. -/
def withGaps : (off limit : Nat) → (used : List Block) → List Block
  | off, limit, [] => gap off limit
  | off, limit, b :: used => gap off b.offset ++ b :: withGaps b.endAt limit used

@[simp] theorem gap_self (off : Nat) : gap off off = [] := if_neg (Nat.lt_irrefl off)

theorem Block.gap_eq {b : Block} (free : b.kind = .free) : gap b.offset b.endAt = [b] := by
  have lt : b.offset < b.endAt := by
    simp only [endAt, overhead, headerSize]
    omega
  have size : b.endAt - (b.offset + overhead) = b.size := Nat.add_sub_cancel_left ..
  rw [gap, if_pos lt, size, ← free]

/-- A tiling in which no two free blocks touch is known from its blocks in use. -/
theorem Tiles.eq_withGaps {off limit : Nat} {blocks : List Block} (tiled : Tiles off limit blocks)
    (parted : Parted blocks) : blocks = withGaps off limit (inUse blocks) := by
  induction blocks generalizing off with
  | nil =>
    obtain rfl : off = limit := tiled
    rw [inUse_nil, withGaps, gap_self]
  | cons b blocks ih =>
    obtain ⟨rfl, rest⟩ := tiled
    have ih := ih rest parted.of_cons
    cases kind : b.kind with
    | allocated =>
      rw [inUse_cons, if_pos kind, withGaps, gap_self, ← ih]
      rfl
    | free =>
      rw [inUse_cons, if_neg (by simp [kind])]
      cases blocks with
      | nil =>
        have top : b.endAt = limit := rest
        rw [inUse_nil, withGaps, ← top, b.gap_eq kind]
      | cons c blocks =>
        -- the block above is in use, and the gap below it is the free block
        have touch : c.offset = b.endAt := rest.1
        have inUseC : c.kind = .allocated := by
          cases kindC : c.kind with
          | allocated => rfl
          | free => exact absurd ⟨kind, kindC⟩ (List.isChain_cons_cons.mp parted).1
        rw [inUse_cons, if_pos inUseC, withGaps, touch] at ih ⊢
        rw [gap_self, List.nil_append] at ih
        rw [b.gap_eq kind, ← ih]
        rfl

/-- The blocks of a heap in which nothing is in use. -/
theorem Parted.single {limit : Nat} {blocks : List Block} (parted : Parted blocks)
    (tiled : Tiles 0 limit blocks) (pos : 0 < limit) (unused : inUse blocks = []) :
    blocks = [⟨0, .free, limit - overhead⟩] := by
  rw [tiled.eq_withGaps parted, unused, withGaps, gap, if_pos pos, Nat.zero_add]

namespace Heap.LaidOut

variable {h h' : Heap} {blocks blocks' : List Block}

/-- Two heaps over equally many bytes that have the same blocks in use have the same blocks. -/
theorem unique (hl : h.LaidOut blocks) (hl' : h'.LaidOut blocks')
    (capacity : h'.capacity = h.capacity) (same : inUse blocks' = inUse blocks) :
    blocks' = blocks := by
  rw [hl.tiled.eq_withGaps hl.parted, hl'.tiled.eq_withGaps hl'.parted, capacity, same]

end Heap.LaidOut

end TrapKernel
