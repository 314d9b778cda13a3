import TrapKernel.Proofs.Memory.Ledger
import Mathlib.Algebra.GroupWithZero.Nat

/-!
# First fit without bytes

What a heap is for its callers: a `Strip`, pieces that follow one another from the bottom of the
region to its top, each free or in use. No tag is written and no piece is threaded into a list. A
request takes the first free piece that is large enough, and a piece that is taken back becomes one
with its free neighbours. The tags of a heap spell such a strip, `Heap.strip`, and the heap answers
every call as the strip does.
-/

namespace TrapKernel

/-- A block without its place. -/
structure Piece where
  kind : BlockKind
  /-- Payload bytes. -/
  size : Nat
  deriving DecidableEq, Repr

namespace Piece

/-- Bytes that the piece takes, tags included. -/
def extent (p : Piece) : Nat := overhead + p.size

/-- The piece is free, and large enough for `bytes` bytes and the tags of the rest. -/
def Fits (bytes : Nat) (p : Piece) : Prop := p.kind = .free ∧ bytes + overhead ≤ p.size

instance (bytes : Nat) (p : Piece) : Decidable (p.Fits bytes) :=
  inferInstanceAs (Decidable (_ ∧ _))

/-- The pieces that take the place of a free one when `bytes` bytes of it are handed out. -/
def carve (p : Piece) (bytes : Nat) : List Piece :=
  if p.size = bytes + overhead then [⟨.allocated, p.size⟩]
  else [⟨.allocated, bytes⟩, ⟨.free, p.size - bytes - overhead⟩]

end Piece

/-- Pieces that follow one another, the lowest first. -/
abbrev Strip := List Piece

namespace Strip

/-- Bytes that the pieces take: their payloads, and the tags of each. -/
def extent (s : Strip) : Nat := (s.map (·.size)).sum + overhead * s.length

/-- The pieces with their places, if the lowest lies at `off`. -/
def blocks : (off : Nat) → Strip → List Block
  | _, [] => []
  | off, p :: s => ⟨off, p.kind, p.size⟩ :: blocks (off + p.extent) s

/-- The pieces of a kind, as a heap shows them. -/
def shown (s : Strip) (kind : BlockKind) : List BlockInfo :=
  ((blocks 0 s).filter (·.kind = kind)).map Block.info

/-- The sizes of the free pieces. -/
def freeSizes (s : Strip) : List Nat := (s.filter (·.kind = .free)).map (·.size)

/-- The largest request that would be granted. -/
def largestFree (s : Strip) : Nat := (s.freeSizes.map (· - overhead)).foldl max 0

/-- Take `bytes` bytes from the first piece that fits, if there is one: where they lie, when the
lowest piece lies at `off`, and the strip that is left. -/
def firstFit (bytes : Nat) : (off : Nat) → Strip → Option (Nat × Strip)
  | _, [] => none
  | off, p :: s =>
    if p.Fits bytes then some (off + headerSize, p.carve bytes ++ s)
    else (firstFit bytes (off + p.extent) s).map fun (address, s) => (address, p :: s)

/-- The strip in which the `size` bytes between `below`, the nearest piece first, and `above` are
free. With the free neighbours they make one piece. -/
def fused (below : Strip) (size : Nat) (above : Strip) : Strip :=
  match below, above with
  | ⟨.free, lower⟩ :: below, ⟨.free, upper⟩ :: above =>
    below.reverse ++ ⟨.free, lower + overhead + size + overhead + upper⟩ :: above
  | ⟨.free, lower⟩ :: below, above => below.reverse ++ ⟨.free, lower + overhead + size⟩ :: above
  | below, ⟨.free, upper⟩ :: above => below.reverse ++ ⟨.free, size + overhead + upper⟩ :: above
  | below, above => below.reverse ++ ⟨.free, size⟩ :: above

/-- Take back the piece in use at `address`, if there is one, looking from `off` upwards; `below`
are the pieces below `off`, the nearest first. -/
def refund (address : Nat) : (off : Nat) → (below : Strip) → Strip → Option Strip
  | _, _, [] => none
  | off, below, p :: above =>
    if p.kind = .allocated ∧ off + headerSize = address then some (fused below p.size above)
    else refund address (off + p.extent) (p :: below) above

/-- What the strip answers to a request. -/
def allocate (s : Strip) (bytes : Nat) : Except MemoryError (Nat × Strip) :=
  if bytes = 0 then .error .zeroSized
  else
    match firstFit bytes 0 s with
    | some done => .ok done
    | none => .error (.outOfMemory bytes s.largestFree)

/-- What the strip answers when a piece is given back. -/
def free (s : Strip) (address : Nat) : Except MemoryError Strip :=
  match refund address 0 [] s with
  | some s => .ok s
  | none => .error (.invalidAddress address)

/-- The strip after a call. A refused call leaves it as it is. -/
def call (s : Strip) : MemoryCall → Strip
  | .allocate bytes =>
    match s.allocate bytes with
    | .ok (_, s) => s
    | .error _ => s
  | .free address =>
    match s.free address with
    | .ok s => s
    | .error _ => s

end Strip

/-! ### The strip of a layout -/

/-- The block without its place. -/
def Block.piece (b : Block) : Piece := ⟨b.kind, b.size⟩

/-- The blocks without their places. -/
def pieces (blocks : List Block) : Strip := blocks.map Block.piece

@[simp] theorem pieces_nil : pieces [] = [] := rfl

@[simp] theorem pieces_cons (b : Block) (blocks : List Block) :
    pieces (b :: blocks) = b.piece :: pieces blocks := rfl

@[simp] theorem pieces_append (as bs : List Block) : pieces (as ++ bs) = pieces as ++ pieces bs :=
  List.map_append ..

theorem Block.endAt_eq_extent (b : Block) : b.endAt = b.offset + b.piece.extent := by
  rw [endAt, Piece.extent, Nat.add_assoc]
  rfl

theorem Block.pieces_split (b : Block) (bytes : Nat) :
    pieces (b.split bytes) = b.piece.carve bytes := by
  rw [split, Piece.carve]
  by_cases whole : b.size = bytes + overhead
  · rw [if_pos whole, if_pos (by exact whole)]
    rfl
  · rw [if_neg whole, if_neg (by exact whole), ← Nat.sub_sub]
    rfl

theorem freeSizes_pieces (blocks : List Block) :
    (pieces blocks).freeSizes = (blocks.filter (·.kind = .free)).map (·.size) := by
  rw [Strip.freeSizes, pieces, List.filter_map, List.map_map]
  rfl

section

variable {off limit bytes : Nat} {below above blocks : List Block} {b : Block}

/-- Where the blocks of a tiling lie follows from their sizes. -/
theorem Tiles.blocks_pieces (tiled : Tiles off limit blocks) :
    Strip.blocks off (pieces blocks) = blocks := by
  induction blocks generalizing off with
  | nil => rfl
  | cons b blocks ih =>
    obtain ⟨rfl, rest⟩ := tiled
    rw [pieces_cons, Strip.blocks, ← b.endAt_eq_extent, ih rest]
    rfl

theorem Tiles.extent_pieces (tiled : Tiles off limit blocks) :
    off + (pieces blocks).extent = limit := by
  induction blocks generalizing off with
  | nil => exact tiled
  | cons b blocks ih =>
    obtain ⟨rfl, rest⟩ := tiled
    have rest := ih rest
    simp only [Strip.extent, pieces_cons, List.map_cons, List.sum_cons, List.length_cons,
      Nat.mul_succ, Block.piece, Block.endAt] at rest ⊢
    omega

theorem firstFit_refused (none : ∀ b ∈ blocks, ¬ b.Fits bytes) :
    Strip.firstFit bytes off (pieces blocks) = Option.none := by
  induction blocks generalizing off with
  | nil => rfl
  | cons b blocks ih =>
    obtain ⟨notHere, none⟩ := List.forall_mem_cons.mp none
    rw [pieces_cons, Strip.firstFit, if_neg (by exact notHere), ih none]
    rfl

theorem firstFit_pieces (tiled : Tiles off limit (below ++ b :: above)) (fits : b.Fits bytes)
    (first : ∀ c ∈ below, ¬ c.Fits bytes) :
    Strip.firstFit bytes off (pieces (below ++ b :: above)) =
      some (b.address, pieces (below ++ (b.split bytes ++ above))) := by
  induction below generalizing off with
  | nil =>
    obtain ⟨rfl, -⟩ := tiled
    rw [List.nil_append, pieces_cons, Strip.firstFit, if_pos (by exact fits), List.nil_append,
      pieces_append, b.pieces_split]
    rfl
  | cons c below ih =>
    obtain ⟨rfl, rest⟩ := tiled
    obtain ⟨notHere, first⟩ := List.forall_mem_cons.mp first
    rw [c.endAt_eq_extent] at rest
    rw [List.cons_append, pieces_cons, Strip.firstFit, if_neg (by exact notHere), ih rest first]
    rfl

/-- What a block that became free makes of the blocks above it, seen without the places. -/
theorem Block.pieces_settle (free : b.kind = .free) (above : List Block) :
    pieces (b.settle above) =
      match pieces above with
      | ⟨.free, upper⟩ :: above => ⟨.free, b.size + overhead + upper⟩ :: above
      | above => ⟨.free, b.size⟩ :: above := by
  cases above with
  | nil => simp [settle, piece, free]
  | cons c above => cases kind : c.kind <;> simp [settle, fuse, piece, free, kind]

/-- Joining a block with its free neighbours, seen without the places. -/
theorem fused_pieces (parted : Parted (below ++ b :: above)) :
    Strip.fused (pieces below).reverse b.size (pieces above) = pieces (released below b above) := by
  rcases below.eq_nil_or_concat with rfl | ⟨below, c, rfl⟩
  · rw [released, List.foldr_nil, Block.pieces_settle (by rfl)]
    cases pieces above with
    | nil => rfl
    | cons p above => obtain ⟨_ | _, upper⟩ := p <;> rfl
  · rw [List.concat_eq_append] at parted ⊢
    rw [List.append_assoc] at parted
    have nearest : (pieces (below ++ [c])).reverse = c.piece :: (pieces below).reverse := by
      rw [pieces_append, List.reverse_append]
      rfl
    rw [nearest, Block.piece]
    cases kind : c.kind with
    | allocated =>
      rw [released_of_allocated parted kind, pieces_append, pieces_cons,
        Block.pieces_settle (by rfl), Block.piece, kind]
      cases pieces above with
      | nil => simp [Strip.fused]
      | cons p above => obtain ⟨_ | _, upper⟩ := p <;> simp [Strip.fused]
    | free =>
      rw [released_of_free parted kind, pieces_append, Block.pieces_settle (by exact kind)]
      cases pieces above with
      | nil => simp [Strip.fused, Block.fuse]
      | cons p above => obtain ⟨_ | _, upper⟩ := p <;> simp [Strip.fused, Block.fuse]

theorem refund_refused {lower : Strip} {address : Nat} (tiled : Tiles off limit blocks)
    (unknown : ∀ b ∈ inUse blocks, b.address ≠ address) :
    Strip.refund address off lower (pieces blocks) = none := by
  induction blocks generalizing off lower with
  | nil => rfl
  | cons b blocks ih =>
    obtain ⟨rfl, rest⟩ := tiled
    rw [b.endAt_eq_extent] at rest
    have notHere : ¬ (b.piece.kind = .allocated ∧ b.offset + headerSize = address) := by
      rintro ⟨allocated, here⟩
      exact unknown b (mem_inUse.mpr ⟨List.mem_cons_self, allocated⟩) here
    have above : ∀ c ∈ inUse blocks, c.address ≠ address := by
      intro c hc
      obtain ⟨member, allocated⟩ := mem_inUse.mp hc
      exact unknown c (mem_inUse.mpr ⟨List.mem_cons_of_mem b member, allocated⟩)
    rw [pieces_cons, Strip.refund, if_neg notHere, ih rest above]

theorem refund_pieces {lower : Strip} (tiled : Tiles off limit (below ++ b :: above))
    (allocated : b.kind = .allocated) :
    Strip.refund b.address off lower (pieces (below ++ b :: above)) =
      some (Strip.fused ((pieces below).reverse ++ lower) b.size (pieces above)) := by
  induction below generalizing off lower with
  | nil =>
    obtain ⟨rfl, -⟩ := tiled
    rw [List.nil_append, pieces_cons, Strip.refund, if_pos ⟨allocated, rfl⟩]
    rfl
  | cons c below ih =>
    have lies := (List.pairwise_cons.mp tiled.ascending).1 b (by simp)
    obtain ⟨rfl, rest⟩ := tiled
    rw [c.endAt_eq_extent] at rest
    have notHere : ¬ (c.piece.kind = .allocated ∧ c.offset + headerSize = b.address) := by
      rintro ⟨-, here⟩
      have lower := Ascending.offset_lt lies
      rw [Block.address] at here
      omega
    rw [List.cons_append, pieces_cons, Strip.refund, if_neg notHere, ih rest, pieces_cons,
      List.reverse_cons, List.append_assoc]
    rfl

end

/-! ### The strip of a heap -/

namespace Heap

/-- What the tags of a heap say, from the bottom of the region to its top. -/
def strip (h : Heap) : Strip :=
  match tiles h.region 0 false with
  | .error _ => []
  | .ok tiled => tiled.map fun (off, kind) => ⟨kind, (h.region.header off).payload⟩

variable {h : Heap} {blocks : List Block}

namespace LaidOut

theorem strip_eq (hl : h.LaidOut blocks) : h.strip = pieces blocks := by
  have tiled := tiles_eq hl.tiled hl.indexed.carries.tagged hl.parted
    fun b _ _ => (rfl : false = false)
  rw [strip, tiled]
  simp only [List.map_map]
  apply List.map_congr_left
  intro b hb
  simp only [Function.comp_apply, hl.indexed.payload hb, Block.piece]

theorem blocks_eq (hl : h.LaidOut blocks) (kind : BlockKind) :
    h.blocks kind = h.strip.shown kind := by
  rw [hl.indexed.blocks_eq kind, hl.strip_eq, Strip.shown, hl.tiled.blocks_pieces]

theorem sizes_showFree (hl : h.LaidOut blocks) : h.showFree.map (·.size) = h.strip.freeSizes := by
  rw [showFree, hl.indexed.blocks_eq .free, hl.strip_eq, freeSizes_pieces, List.map_map]
  rfl

theorem freeBytes_eq (hl : h.LaidOut blocks) : h.freeBytes = h.strip.freeSizes.sum := by
  rw [freeBytes, hl.sizes_showFree, List.sum_eq_foldl]

theorem largestFree_eq (hl : h.LaidOut blocks) : h.largestFree = h.strip.largestFree := by
  rw [largestFree, Strip.largestFree, ← hl.sizes_showFree, List.map_map]
  rfl

theorem isEmpty_eq (hl : h.LaidOut blocks) : h.isEmpty = h.strip.all (·.kind = .free) := by
  have head : h.allocatedHead = (offsetsOf .allocated blocks).head? := hl.indexed.head .allocated
  rw [isEmpty, head, hl.strip_eq]
  apply Bool.eq_iff_iff.mpr
  rw [Option.isNone_iff_eq_none, List.head?_eq_none_iff, offsetsOf, List.map_eq_nil_iff,
    List.filter_eq_nil_iff, List.all_eq_true]
  constructor
  · intro none p hp
    obtain ⟨b, hb, rfl⟩ := List.mem_map.mp hp
    have notInUse := none b hb
    cases kind : b.kind with
    | free => exact decide_eq_true kind
    | allocated => exact absurd (decide_eq_true kind) notInUse
  · intro free b hb inUse
    have free : b.kind = .free := of_decide_eq_true (free b.piece (List.mem_map_of_mem hb))
    rw [of_decide_eq_true inUse] at free
    cases free

/-! ### What a call does to the strip -/

theorem strip_allocate (hl : h.LaidOut blocks) (bytes : Nat) :
    Prod.map id strip <$> h.allocate bytes = h.strip.allocate bytes := by
  rcases hl.allocate_cases bytes with ⟨zero, refused⟩ | ⟨pos, none, refused⟩ |
    ⟨below, b, above, h', rfl, pos, fits, first, done, laidOut, -, -⟩
  · rw [refused, Strip.allocate, if_pos zero]
    rfl
  · rw [refused, Strip.allocate, if_neg pos, hl.largestFree_eq, hl.strip_eq, firstFit_refused none]
    rfl
  · rw [done, Strip.allocate, if_neg pos, hl.strip_eq, firstFit_pieces hl.tiled fits first,
      ← laidOut.strip_eq]
    rfl

theorem strip_free (hl : h.LaidOut blocks) (address : Nat) :
    strip <$> h.free address = h.strip.free address := by
  rcases hl.free_cases address with ⟨unknown, refused⟩ |
    ⟨below, b, above, h', rfl, allocated, rfl, done, laidOut, -, -⟩
  · rw [refused, Strip.free, hl.strip_eq, refund_refused hl.tiled unknown]
    rfl
  · rw [done, Strip.free, hl.strip_eq, refund_pieces hl.tiled allocated, List.append_nil,
      fused_pieces hl.parted, ← laidOut.strip_eq]
    rfl

theorem strip_call (hl : h.LaidOut blocks) (call : MemoryCall) :
    (h.call call).strip = h.strip.call call := by
  cases call with
  | allocate bytes =>
    rw [Strip.call, ← hl.strip_allocate bytes, Heap.call, Heap.answer]
    cases h.allocate bytes <;> rfl
  | free address =>
    rw [Strip.call, ← hl.strip_free address, Heap.call, Heap.answer]
    cases h.free address <;> rfl

theorem strip_calls (hl : h.LaidOut blocks) (calls : List MemoryCall) :
    (calls.foldl Heap.call h).strip = calls.foldl Strip.call h.strip := by
  induction calls generalizing h blocks with
  | nil => rfl
  | cons call calls ih =>
    obtain ⟨blocks', laidOut, -⟩ := hl.call call
    rw [List.foldl_cons, List.foldl_cons, ih laidOut, hl.strip_call call]

end LaidOut

/-- The heap is the strip to whoever calls it: it answers the same and shows the same. -/
structure Plays (h : Heap) (s : Strip) : Prop where
  strip : h.strip = s
  /-- A granted request has the address and the strip of first fit, a refused one its reason. -/
  allocate : ∀ bytes, Prod.map id Heap.strip <$> h.allocate bytes = s.allocate bytes
  free : ∀ address, Heap.strip <$> h.free address = s.free address
  showAllocated : h.showAllocated = s.shown .allocated
  showFree : h.showFree = s.shown .free
  freeBytes : h.freeBytes = s.freeSizes.sum
  isEmpty : h.isEmpty = s.all (·.kind = .free)
  capacity : h.capacity = s.extent

theorem LaidOut.plays (hl : h.LaidOut blocks) : h.Plays h.strip where
  strip := rfl
  allocate := hl.strip_allocate
  free := hl.strip_free
  showAllocated := hl.blocks_eq .allocated
  showFree := hl.blocks_eq .free
  freeBytes := hl.freeBytes_eq
  isEmpty := hl.isEmpty_eq
  capacity := by rw [hl.strip_eq, ← hl.tiled.extent_pieces, Nat.zero_add]

/-- Whatever was asked of a new heap, it is the strip of which the same was asked: one free piece at
first, from which first fit hands out what is asked for, unless that is nothing. -/
theorem firstFit_calls {size : Nat} (created : create size = .ok h) (calls : List MemoryCall) :
    (calls.foldl Heap.call h).Plays (calls.foldl Strip.call [⟨.free, size - overhead⟩]) := by
  obtain ⟨-, -, laidOut, -⟩ := create_eq_ok created
  have start : h.strip = [⟨.free, size - overhead⟩] := laidOut.strip_eq
  obtain ⟨blocks, laidOut', -⟩ := laidOut.calls calls
  rw [← start, ← laidOut.strip_calls calls]
  exact laidOut'.plays

theorem firstFit_calls_hundred : ∃ h, create 100 = .ok h ∧
    ([.allocate 43, .free 20].foldl Heap.call h).Plays
      ([.allocate 43, .free 20].foldl Strip.call [⟨.free, 72⟩]) := by
  obtain ⟨h, created, -, -⟩ := create_ok (show overhead < 100 by decide) (by decide)
  exact ⟨h, created, firstFit_calls created _⟩

/-- First fit would grant a request for nothing where a piece fits it. The heap refuses it. -/
theorem firstFit_zero : ∃ h, create 100 = .ok h ∧
    Strip.firstFit 0 0 h.strip = some (20, [⟨.allocated, 0⟩, ⟨.free, 44⟩]) ∧
    h.allocate 0 = .error .zeroSized := by
  obtain ⟨h, created, laidOut, -⟩ := create_ok (show overhead < 100 by decide) (by decide)
  refine ⟨h, created, ?_, rfl⟩
  rw [laidOut.strip_eq]
  decide

end Heap

end TrapKernel
