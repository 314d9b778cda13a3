import TrapKernel.Memory.Block
import TrapKernel.Text.Record

/-!
# The heap

A first-fit heap over one region. The blocks tile the region; each is threaded into the list of
its kind, in the order of the offsets. `allocate` takes the lowest free block that is large enough
and splits it, `free` joins a block with its free neighbours, and `verify` checks the whole
structure: the tiling, the agreement of the tags, that no two free blocks touch, and both lists.

Every access to a tag is checked against the region, and every walk is bounded by the number of
blocks that fit into it. A failed check is the error `corrupt`.
-/

namespace TrapKernel

/-- A heap: the bytes it manages and the first block of each list. -/
structure Heap where
  region : Region
  allocatedHead : Option Nat
  freeHead : Option Nat

/-- What a heap tells about one block. -/
structure BlockInfo where
  /-- Where the payload starts. -/
  address : Nat
  /-- Payload bytes. -/
  size : Nat
  kind : BlockKind
  deriving DecidableEq, Repr

namespace Heap

/-- Bytes under management, tags included. -/
def capacity (h : Heap) : Nat := h.region.size

/-- The first block of a list. -/
def head (h : Heap) : BlockKind → Option Nat
  | .allocated => h.allocatedHead
  | .free => h.freeHead

/-- Change the first block of a list. -/
def setHead (h : Heap) (kind : BlockKind) (first : Option Nat) : Heap :=
  match kind with
  | .allocated => { h with allocatedHead := first }
  | .free => { h with freeHead := first }

/-- The blocks of a list, in list order. -/
def listed (h : Heap) (kind : BlockKind) : Except MemoryError (List Listed) :=
  h.region.chain (h.capacity / overhead) (h.head kind)

/-- A heap that manages `size` bytes as one free block. -/
def create (size : Nat) : Except MemoryError Heap :=
  if size ≤ overhead then .error (.regionTooSmall size)
  else if size > UInt32.size - 1 then .error (.regionTooLarge size)
  else do
    let region ← (Region.zeroed size).putBlock 0 .free (size - overhead)
    return ⟨region, none, some 0⟩

/-- Write both tags of a block. -/
def putBlock (h : Heap) (off : Nat) (kind : BlockKind) (size : Nat) : Except MemoryError Heap := do
  return { h with region := ← h.region.putBlock off kind size }

/-- Make `next` follow `off`, or come first in the list if there is no `off`. -/
def follow (h : Heap) (kind : BlockKind) (off next : Option Nat) : Except MemoryError Heap :=
  match off with
  | none => .ok (h.setHead kind next)
  | some off => do return { h with region := ← h.region.setNext off next }

/-- Make `prev` precede `off`, if there is an `off`. -/
def precede (h : Heap) (off prev : Option Nat) : Except MemoryError Heap :=
  match off with
  | none => .ok h
  | some off => do return { h with region := ← h.region.setPrev off prev }

/-- Thread the block at `off` into a list, behind the last block that is not above it. -/
def link (h : Heap) (kind : BlockKind) (off : Nat) : Except MemoryError Heap := do
  let listed ← h.listed kind
  let prev := (listed.takeWhile (·.offset ≤ off)).getLast?.map (·.offset)
  let next := (listed.dropWhile (·.offset ≤ off)).head?.map (·.offset)
  let h := { h with region := ← h.region.setLinks off next prev }
  let h ← h.follow kind prev (some off)
  h.precede next (some off)

/-- Take the block at `off` out of a list. -/
def unlink (h : Heap) (kind : BlockKind) (off : Nat) : Except MemoryError Heap := do
  let header ← h.region.header? off
  let next := Link.decode header.next
  let prev := Link.decode header.prev
  let h ← h.follow kind prev next
  let h ← h.precede next prev
  return { h with region := ← h.region.setLinks off none none }

/-- The blocks of a list, as they are shown. -/
def blocks (h : Heap) (kind : BlockKind) : List BlockInfo :=
  match h.listed kind with
  | .error _ => []
  | .ok listed => listed.map fun b => ⟨b.offset + headerSize, b.header.payload, kind⟩

/-- The blocks in use, by address. -/
def showAllocated (h : Heap) : List BlockInfo := h.blocks .allocated

/-- The free blocks, by address. -/
def showFree (h : Heap) : List BlockInfo := h.blocks .free

/-- Free payload bytes in all. -/
def freeBytes (h : Heap) : Nat := (h.showFree.map (·.size)).foldl (· + ·) 0

/-- The largest request that would be granted now. -/
def largestFree (h : Heap) : Nat := (h.showFree.map (·.size - overhead)).foldl max 0

/-- No block is in use. -/
def isEmpty (h : Heap) : Bool := h.allocatedHead.isNone

/-- Hand out `bytes` bytes from the lowest free block whose payload holds them and the tags of the
rest. When nothing would be left of the payload, the whole block is handed out. -/
def allocate (h : Heap) (bytes : Nat) : Except MemoryError (Nat × Heap) :=
  if bytes = 0 then .error .zeroSized
  else do
    let needed := bytes + overhead
    match (← h.listed .free).find? fun b => needed ≤ b.header.payload with
    | none => .error (.outOfMemory bytes h.largestFree)
    | some ⟨off, header⟩ =>
      let h ← h.unlink .free off
      if header.payload = needed then
        let h ← h.putBlock off .allocated needed
        let h ← h.link .allocated off
        return (off + headerSize, h)
      else
        let h ← h.putBlock off .allocated bytes
        let h ← h.link .allocated off
        let rest := off + overhead + bytes
        let h ← h.putBlock rest .free (header.payload - needed)
        let h ← h.link .free rest
        return (off + headerSize, h)

/-- Join the free block at `upper` to the free block at `lower`, which ends where it starts. -/
def merge (h : Heap) (lower upper : Nat) : Except MemoryError Heap := do
  let upperSize := (← h.region.header? upper).payload
  let h ← h.unlink .free upper
  let header ← h.region.header? lower
  let size ← Link.word (header.payload + overhead + upperSize)
  let header := { header with size }
  let region ← h.region.putHeader lower header
  let region ← region.putTrailer (header.trailerAt lower) ⟨BlockKind.free.word, size⟩
  return { h with region }

/-- Join the free block at `off` to the block below it, if that one is free. The result tells
where the block starts now. -/
def mergeBelow (h : Heap) (off : Nat) : Except MemoryError (Nat × Heap) :=
  if off < trailerSize then .ok (off, h)
  else do
    let below ← h.region.trailer? (off - trailerSize)
    if BlockKind.ofWord? below.kind = some .free then
      if off < overhead + below.size.toNat then
        .error (.corrupt off "lower neighbour starts before the region")
      else
        let lower := off - overhead - below.size.toNat
        return (lower, ← h.merge lower off)
    else return (off, h)

/-- Join the block above the free block at `off` to it, if that one is free. -/
def mergeAbove (h : Heap) (off : Nat) : Except MemoryError Heap := do
  let upper := (← h.region.header? off).endAt off
  if upper < h.capacity then
    if BlockKind.ofWord? (← h.region.header? upper).kind = some .free then h.merge off upper
    else return h
  else return h

/-- Take back the block whose payload starts at `address`, joining it with its free
neighbours. -/
def free (h : Heap) (address : Nat) : Except MemoryError Heap :=
  if address < headerSize then .error (.invalidAddress address)
  else do
    let off := address - headerSize
    if (← h.listed .allocated).any (·.offset = off) then
      let h ← h.unlink .allocated off
      let h ← h.putBlock off .free (← h.region.header? off).payload
      let h ← h.link .free off
      let (off, h) ← h.mergeBelow off
      h.mergeAbove off
    else .error (.invalidAddress address)

/-! ### Verification -/

/-- The blocks that tile the region from `off` on, each with its kind. `afterFree` says that the
block below is free. -/
def tiles (r : Region) (off : Nat) (afterFree : Bool) :
    Except MemoryError (List (Nat × BlockKind)) :=
  if off < r.size then
    let header := r.header off
    if ¬ r.Holds off overhead then .error (.corrupt off "block tags run past the region")
    else if header.start.toNat ≠ off then
      .error (.corrupt off "header start does not match its offset")
    else
      match BlockKind.ofWord? header.kind with
      | none => .error (.corrupt off "unknown header type")
      | some kind =>
        if header.endAt off > r.size then .error (.corrupt off "block runs past the region")
        else
          let trailer := r.trailer (header.trailerAt off)
          if BlockKind.ofWord? trailer.kind ≠ some kind ∨ trailer.size ≠ header.size then
            .error (.corrupt off "trailer disagrees with header")
          else if kind = .free ∧ afterFree then .error (.corrupt off "adjacent free blocks")
          else do
            let rest ← tiles r (header.endAt off) (kind = .free)
            return (off, kind) :: rest
  else if off = r.size then .ok []
  else .error (.corrupt off "blocks do not tile the region")
termination_by r.size - off
decreasing_by
  simp only [Header.endAt, Header.trailerAt, headerSize, trailerSize]
  omega

/-- The offsets met along a list of at most `most` blocks, if every back link names the block
before. -/
def backLinked (r : Region) : (most : Nat) → (prev cursor : Option Nat) →
    Except MemoryError (List Nat)
  | _, _, none => .ok []
  | 0, _, some off => .error (.corrupt off "list is longer than the blocks it indexes")
  | most + 1, prev, some off => do
    let header ← r.header? off
    if Link.decode header.prev ≠ prev then .error (.corrupt off "back link does not match")
    else
      let rest ← backLinked r most (some off) (Link.decode header.next)
      return off :: rest

/-- The list of a kind holds exactly the blocks at `expected`, in that order. A list is followed one
block further than expected before it counts as too long. -/
def verifyList (h : Heap) (kind : BlockKind) (expected : List Nat) : Except MemoryError Unit := do
  let seen ← backLinked h.region (expected.length + 1) none (h.head kind)
  if seen = expected then return
  else .error (.corrupt (seen.headD 0) "list does not match the blocks of its type")

/-- Check every structural invariant of the region. -/
def verify (h : Heap) : Except MemoryError Unit := do
  let tiled ← tiles h.region 0 false
  let offsets (kind : BlockKind) := (tiled.filter (·.2 = kind)).map (·.1)
  h.verifyList .free (offsets .free)
  h.verifyList .allocated (offsets .allocated)

/-- The text that shows a heap. -/
def debug (h : Heap) : String :=
  Text.record "Heap" [("capacity", toString h.capacity),
    ("allocated", toString h.showAllocated.length), ("free_bytes", toString h.freeBytes)]

end Heap

end TrapKernel
