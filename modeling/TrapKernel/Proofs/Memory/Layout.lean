import Mathlib.Data.List.Chain
import TrapKernel.Memory.Heap

/-!
# Layouts

What a heap looks like without its bytes: the blocks that tile the region, each with its kind and
the size of its payload. `Tiles` says that blocks follow one another without a gap, `Parted` that no
two free blocks touch. A block is cut in two by `split`, and `settle` puts a block that became free
below the blocks above it, joining the two if both are free.
-/

namespace TrapKernel

/-- A block of a region. -/
structure Block where
  offset : Nat
  kind : BlockKind
  /-- Payload bytes. -/
  size : Nat
  deriving DecidableEq, Repr

namespace Block

/-- Where the payload starts. -/
def address (b : Block) : Nat := b.offset + headerSize

/-- Where the trailer starts. -/
def trailerAt (b : Block) : Nat := b.offset + headerSize + b.size

/-- Where the block ends and the next one starts. -/
def endAt (b : Block) : Nat := b.offset + overhead + b.size

/-- What a heap shows of the block. -/
def info (b : Block) : BlockInfo := ⟨b.address, b.size, b.kind⟩

/-- The blocks that take the place of a free block when `bytes` bytes of it are handed out. -/
def split (b : Block) (bytes : Nat) : List Block :=
  if b.size = bytes + overhead then [{ b with kind := .allocated }]
  else [⟨b.offset, .allocated, bytes⟩,
    ⟨b.offset + overhead + bytes, .free, b.size - (bytes + overhead)⟩]

/-- The block that covers `b` and the block `c` above it. -/
def fuse (b c : Block) : Block := { b with size := b.size + overhead + c.size }

/-- Put a block below others. Where two free blocks would touch, they become one. -/
def settle (b : Block) : List Block → List Block
  | [] => [b]
  | c :: blocks => if b.kind = .free ∧ c.kind = .free then b.fuse c :: blocks else b :: c :: blocks

theorem endAt_eq (b : Block) : b.endAt = b.trailerAt + trailerSize := by
  simp only [endAt, trailerAt, overhead]
  omega

end Block

/-- The offsets of the blocks of a kind. -/
def offsetsOf (kind : BlockKind) (blocks : List Block) : List Nat :=
  (blocks.filter (·.kind = kind)).map (·.offset)

/-- The blocks follow one another from `off` to `limit` without a gap. -/
def Tiles : (off limit : Nat) → List Block → Prop
  | off, limit, [] => off = limit
  | off, limit, b :: blocks => b.offset = off ∧ Tiles b.endAt limit blocks

/-- No two neighbouring blocks are both free. -/
def Parted (blocks : List Block) : Prop :=
  blocks.IsChain fun b c => ¬ (b.kind = .free ∧ c.kind = .free)

/-- The blocks lie above one another. -/
def Ascending (blocks : List Block) : Prop := blocks.Pairwise fun b c => b.endAt ≤ c.offset

/-! ### Offsets -/

@[simp] theorem offsetsOf_append (kind : BlockKind) (as bs : List Block) :
    offsetsOf kind (as ++ bs) = offsetsOf kind as ++ offsetsOf kind bs := by
  simp [offsetsOf]

theorem offsetsOf_cons (kind : BlockKind) (b : Block) (bs : List Block) : offsetsOf kind (b :: bs) =
    if b.kind = kind then b.offset :: offsetsOf kind bs else offsetsOf kind bs := by
  by_cases h : b.kind = kind <;> simp [offsetsOf, h]

theorem mem_offsetsOf {kind : BlockKind} {blocks : List Block} {off : Nat} :
    off ∈ offsetsOf kind blocks ↔ ∃ b ∈ blocks, b.kind = kind ∧ b.offset = off := by
  simp [offsetsOf, and_assoc]

theorem offsetsOf_sublist (kind : BlockKind) (blocks : List Block) :
    (offsetsOf kind blocks).Sublist (blocks.map (·.offset)) :=
  List.filter_sublist.map _

namespace Ascending

variable {blocks : List Block}

theorem offset_lt {b c : Block} (h : b.endAt ≤ c.offset) : b.offset < c.offset := by
  simp only [Block.endAt, overhead, headerSize] at h
  omega

theorem offsets (h : Ascending blocks) : (blocks.map (·.offset)).Pairwise (· < ·) := by
  rw [List.pairwise_map]
  exact h.imp offset_lt

theorem offsetsOf (h : Ascending blocks) (kind : BlockKind) :
    (offsetsOf kind blocks).Pairwise (· < ·) :=
  h.offsets.sublist (offsetsOf_sublist kind blocks)

/-- Two blocks are the same, or one lies above the other. -/
theorem apart (h : Ascending blocks) {b c : Block} (hb : b ∈ blocks) (hc : c ∈ blocks) :
    b = c ∨ b.endAt ≤ c.offset ∨ c.endAt ≤ b.offset := by
  induction blocks with
  | nil => cases hb
  | cons d blocks ih =>
    obtain ⟨above, h⟩ := List.pairwise_cons.mp h
    rcases List.mem_cons.mp hb with rfl | inB <;> rcases List.mem_cons.mp hc with rfl | inC
    · exact Or.inl rfl
    · exact Or.inr (Or.inl (above c inC))
    · exact Or.inr (Or.inr (above b inB))
    · exact ih h inB inC

theorem eq_of_offset (h : Ascending blocks) {b c : Block} (hb : b ∈ blocks) (hc : c ∈ blocks)
    (same : b.offset = c.offset) : b = c := by
  rcases h.apart hb hc with eq | above | above
  · exact eq
  · have := offset_lt above
    omega
  · have := offset_lt above
    omega

/-- As many blocks as there are, so much room they take. -/
theorem length_le (h : Ascending blocks) {off limit : Nat}
    (inside : ∀ b ∈ blocks, off ≤ b.offset ∧ b.endAt ≤ limit) (le : off ≤ limit) :
    overhead * blocks.length ≤ limit - off := by
  induction blocks generalizing off with
  | nil => exact Nat.zero_le _
  | cons b blocks ih =>
    obtain ⟨above, h⟩ := List.pairwise_cons.mp h
    obtain ⟨low, high⟩ := inside b List.mem_cons_self
    have between : ∀ c ∈ blocks, b.endAt ≤ c.offset ∧ c.endAt ≤ limit := fun c hc =>
      ⟨above c hc, (inside c (List.mem_cons_of_mem b hc)).2⟩
    have rest := ih h between high
    rw [List.length_cons, Nat.mul_succ]
    simp only [Block.endAt] at rest high
    omega

end Ascending

/-! ### Tilings -/

namespace Tiles

variable {off limit : Nat} {blocks : List Block}

theorem append {as bs : List Block} :
    Tiles off limit (as ++ bs) ↔ ∃ mid, Tiles off mid as ∧ Tiles mid limit bs := by
  induction as generalizing off with
  | nil =>
    refine ⟨fun h => ⟨off, rfl, h⟩, ?_⟩
    rintro ⟨mid, eq, h⟩
    rwa [show off = mid from eq]
  | cons a as ih => simp only [List.cons_append, Tiles, ih, and_assoc, exists_and_left]

theorem bounds (h : Tiles off limit blocks) :
    off ≤ limit ∧ ∀ b ∈ blocks, off ≤ b.offset ∧ b.endAt ≤ limit := by
  induction blocks generalizing off with
  | nil => exact ⟨Nat.le_of_eq h, fun b hb => absurd hb (List.not_mem_nil)⟩
  | cons b blocks ih =>
    obtain ⟨start, rest⟩ := h
    obtain ⟨le, inside⟩ := ih rest
    have grow : off ≤ b.endAt := by
      rw [← start, Block.endAt, Nat.add_assoc]
      exact Nat.le_add_right _ _
    refine ⟨Nat.le_trans grow le, fun c hc => ?_⟩
    rcases List.mem_cons.mp hc with rfl | hc
    · exact ⟨Nat.le_of_eq start.symm, le⟩
    · exact ⟨Nat.le_trans grow (inside c hc).1, (inside c hc).2⟩

theorem ascending (h : Tiles off limit blocks) : Ascending blocks := by
  induction blocks generalizing off with
  | nil => exact List.Pairwise.nil
  | cons b blocks ih =>
    exact List.pairwise_cons.mpr ⟨fun c hc => (h.2.bounds.2 c hc).1, ih h.2⟩

/-- A block gives way to others that cover the same bytes. -/
theorem replace {as bs : List Block} {b : Block} {middle : List Block}
    (h : Tiles off limit (as ++ b :: bs)) (same : Tiles b.offset b.endAt middle) :
    Tiles off limit (as ++ (middle ++ bs)) := by
  obtain ⟨mid, front, start, back⟩ := append.mp h
  refine append.mpr ⟨mid, front, append.mpr ⟨b.endAt, ?_, back⟩⟩
  rwa [← start]

theorem split {b : Block} {bytes : Nat} (fits : bytes + overhead ≤ b.size) :
    Tiles b.offset b.endAt (b.split bytes) := by
  unfold Block.split
  split
  · exact ⟨rfl, rfl⟩
  · refine ⟨rfl, rfl, ?_⟩
    simp only [Tiles, Block.endAt]
    omega

theorem settle {b : Block} (h : Tiles off limit (b :: blocks)) :
    Tiles off limit (b.settle blocks) := by
  cases blocks with
  | nil => exact h
  | cons c blocks =>
    rw [Block.settle]
    split
    · obtain ⟨start, above, rest⟩ := h
      refine ⟨start, ?_⟩
      have same : (b.fuse c).endAt = c.endAt := by
        simp only [Block.fuse, Block.endAt] at above ⊢
        omega
      rwa [same]
    · exact h

end Tiles

/-! ### Joining free neighbours -/

theorem Block.fuse_fuse (b c d : Block) : (b.fuse c).fuse d = b.fuse (c.fuse d) := by
  simp only [Block.fuse, Block.mk.injEq, true_and]
  omega

theorem Block.settle_of_allocated {b : Block} (h : b.kind = .allocated) (blocks : List Block) :
    b.settle blocks = b :: blocks := by
  cases blocks with
  | nil => rfl
  | cons c blocks => rw [Block.settle, if_neg (by simp [h])]

theorem Block.kind_head_settle (b : Block) (blocks : List Block) :
    (b.settle blocks).head?.map (·.kind) = some b.kind := by
  cases blocks with
  | nil => rfl
  | cons c blocks =>
    rw [Block.settle]
    split <;> rfl

/-- The layout after the block `b` between `below` and `above` became free. -/
def released (below : List Block) (b : Block) (above : List Block) : List Block :=
  below.foldr Block.settle (Block.settle { b with kind := .free } above)

namespace Parted

theorem of_cons {b : Block} {blocks : List Block} (h : Parted (b :: blocks)) : Parted blocks :=
  List.IsChain.of_cons h

theorem settle {b : Block} {blocks : List Block} (h : Parted blocks) :
    Parted (b.settle blocks) := by
  cases blocks with
  | nil => exact List.isChain_singleton b
  | cons c blocks =>
    rw [Block.settle]
    split
    · rename_i free
      cases blocks with
      | nil => exact List.isChain_singleton _
      | cons d blocks =>
        obtain ⟨apart, rest⟩ := List.isChain_cons_cons.mp h
        refine List.isChain_cons_cons.mpr ⟨?_, rest⟩
        rintro ⟨-, freeD⟩
        exact apart ⟨free.2, freeD⟩
    · rename_i notBoth
      exact List.isChain_cons_cons.mpr ⟨notBoth, h⟩

theorem split {below above : List Block} {b : Block} (bytes : Nat)
    (h : Parted (below ++ b :: above)) (free : b.kind = .free) :
    Parted (below ++ (b.split bytes ++ above)) := by
  unfold Parted at *
  obtain ⟨front, back⟩ := List.isChain_split.mp h
  -- whatever the last block below is, the block handed out is not free
  have front (c : Block) (inUse : c.kind = .allocated) :
      (below ++ [c]).IsChain fun b c => ¬ (b.kind = .free ∧ c.kind = .free) := by
    refine List.isChain_append.mpr ⟨(List.isChain_append.mp front).1, List.isChain_singleton c, ?_⟩
    rintro d - e he ⟨-, freeE⟩
    obtain rfl : c = e := by simpa using he
    rw [inUse] at freeE
    cases freeE
  have onto (c : Block) (inUse : c.kind = .allocated) {blocks : List Block}
      (parted : Parted blocks) :
      (c :: blocks).IsChain fun b c => ¬ (b.kind = .free ∧ c.kind = .free) := by
    cases blocks with
    | nil => exact List.isChain_singleton c
    | cons d blocks =>
      refine List.isChain_cons_cons.mpr ⟨?_, parted⟩
      rintro ⟨freeC, -⟩
      rw [inUse] at freeC
      cases freeC
  unfold Block.split
  split
  · exact List.isChain_split.mpr ⟨front _ rfl, onto _ rfl (of_cons back)⟩
  · refine List.isChain_split.mpr ⟨front _ rfl, onto _ rfl ?_⟩
    cases above with
    | nil => exact List.isChain_singleton _
    | cons d above =>
      obtain ⟨apart, rest⟩ := List.isChain_cons_cons.mp back
      refine List.isChain_cons_cons.mpr ⟨?_, rest⟩
      rintro ⟨-, freeD⟩
      exact apart ⟨free, freeD⟩

/-- Blocks that were parted stay as they are when they are put below a block of the same kind. -/
theorem foldr_settle {below blocks : List Block} {c : Block} {rest : List Block}
    (h : Parted (below ++ c :: rest)) (same : blocks.head?.map (·.kind) = some c.kind) :
    below.foldr Block.settle blocks = below ++ blocks := by
  induction below with
  | nil => rfl
  | cons b below ih =>
    rw [List.foldr_cons, ih (of_cons h)]
    cases below with
    | nil =>
      cases blocks with
      | nil => rfl
      | cons d blocks =>
        have same : d.kind = c.kind := by simpa using same
        rw [List.nil_append, Block.settle, if_neg]
        · rfl
        · rw [same]
          exact (List.isChain_cons_cons.mp h).1
    | cons d below =>
      rw [List.cons_append, Block.settle, if_neg (List.isChain_cons_cons.mp h).1]
      rfl

theorem released {below above : List Block} {b : Block} (h : Parted (below ++ b :: above)) :
    Parted (released below b above) := by
  have back : Parted above := of_cons (List.isChain_append.mp h).2.1
  clear h
  unfold TrapKernel.released
  induction below with
  | nil => exact back.settle
  | cons c below ih => exact ih.settle

end Parted

theorem Tiles.released {off limit : Nat} {below above : List Block} {b : Block}
    (h : Tiles off limit (below ++ b :: above)) : Tiles off limit (released below b above) := by
  unfold TrapKernel.released
  induction below generalizing off with
  | nil => exact Tiles.settle h
  | cons c below ih => exact Tiles.settle ⟨h.1, ih h.2⟩

end TrapKernel
