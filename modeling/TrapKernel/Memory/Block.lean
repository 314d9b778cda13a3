import TrapKernel.Memory.Error
import TrapKernel.Memory.Region

/-!
# Blocks and their tags

A block is a header of five words, a payload, and a trailer of two words:

    header (20 bytes)                 payload       trailer (8 bytes)
    kind  start  size  next  prev     size bytes    kind  size

The header threads the block into the list of its kind; the trailer lets the block above find
where this one starts. A link word holds an offset, or `nil` when there is no further block.
-/

namespace TrapKernel

/-- Whether a block is in use. -/
inductive BlockKind where
  | free
  | allocated
  deriving DecidableEq, Repr

namespace BlockKind

/-- The word that stands for a kind. -/
def word : BlockKind → UInt32
  | free => 0
  | allocated => 1

/-- The kind that a word stands for. -/
def ofWord? (w : UInt32) : Option BlockKind :=
  if w = 0 then some free else if w = 1 then some allocated else none

/-- The name of a kind. -/
def name : BlockKind → String
  | free => "Free"
  | allocated => "Allocated"

end BlockKind

/-- Bytes of a header. -/
def headerSize : Nat := 20

/-- Bytes of a trailer. -/
def trailerSize : Nat := 8

/-- Bytes that every block needs besides its payload. -/
def overhead : Nat := headerSize + trailerSize

namespace Link

/-- The word of a missing link. -/
def nil : UInt32 := 0xFFFFFFFF

/-- The offset that a link word holds. -/
def decode (w : UInt32) : Option Nat := if w = nil then none else some w.toNat

/-- The word of an offset or of a size. One that would be cut, or taken for `nil`, is refused. -/
def word (n : Nat) : Except MemoryError UInt32 :=
  if n < nil.toNat then .ok (.ofNat n) else .error (.corrupt n "value does not fit a tag word")

/-- The word of a link. -/
def encode : Option Nat → Except MemoryError UInt32
  | none => .ok nil
  | some off => word off

end Link

/-- The tag at the low end of a block, as the words it holds. -/
structure Header where
  kind : UInt32
  start : UInt32
  size : UInt32
  next : UInt32
  prev : UInt32
  deriving DecidableEq, Repr

namespace Header

/-- The words of a header, in the order in which they are stored. -/
def words (h : Header) : List UInt32 := [h.kind, h.start, h.size, h.next, h.prev]

/-- Payload bytes of the block. -/
def payload (h : Header) : Nat := h.size.toNat

/-- Where the trailer of the block at `off` starts. -/
def trailerAt (h : Header) (off : Nat) : Nat := off + headerSize + h.payload

/-- Where the block at `off` ends and the next one starts. -/
def endAt (h : Header) (off : Nat) : Nat := h.trailerAt off + trailerSize

end Header

/-- The tag at the high end of a block, as the words it holds. -/
structure Trailer where
  kind : UInt32
  size : UInt32
  deriving DecidableEq, Repr

/-- The words of a trailer, in the order in which they are stored. -/
def Trailer.words (t : Trailer) : List UInt32 := [t.kind, t.size]

/-- A header together with the offset at which it stands. -/
structure Listed where
  offset : Nat
  header : Header

namespace Region

/-- The header at `off`. -/
def header (r : Region) (off : Nat) : Header where
  kind := r.word off
  start := r.word (off + 4)
  size := r.word (off + 8)
  next := r.word (off + 12)
  prev := r.word (off + 16)

/-- The trailer at `off`. -/
def trailer (r : Region) (off : Nat) : Trailer where
  kind := r.word off
  size := r.word (off + 4)

/-- The header at `off`, if the region holds one there. -/
def header? (r : Region) (off : Nat) : Except MemoryError Header :=
  if r.Holds off headerSize then .ok (r.header off)
  else .error (.corrupt off "header outside the region")

/-- The trailer at `off`, if the region holds one there. -/
def trailer? (r : Region) (off : Nat) : Except MemoryError Trailer :=
  if r.Holds off trailerSize then .ok (r.trailer off)
  else .error (.corrupt off "trailer outside the region")

/-- Write a header at `off`, if the region has room for it there. -/
def putHeader (r : Region) (off : Nat) (h : Header) : Except MemoryError Region :=
  if r.Holds off headerSize then .ok (r.putWords off h.words)
  else .error (.corrupt off "header outside the region")

/-- Write a trailer at `off`, if the region has room for it there. -/
def putTrailer (r : Region) (off : Nat) (t : Trailer) : Except MemoryError Region :=
  if r.Holds off trailerSize then .ok (r.putWords off t.words)
  else .error (.corrupt off "trailer outside the region")

/-- Write both tags of a block, leaving its links unset. -/
def putBlock (r : Region) (off : Nat) (kind : BlockKind) (size : Nat) :
    Except MemoryError Region := do
  let start ← Link.word off
  let sizeWord ← Link.word size
  let header : Header := ⟨kind.word, start, sizeWord, Link.nil, Link.nil⟩
  let r ← r.putHeader off header
  r.putTrailer (header.trailerAt off) ⟨kind.word, sizeWord⟩

/-- Change the forward link of the header at `off`. -/
def setNext (r : Region) (off : Nat) (next : Option Nat) : Except MemoryError Region := do
  let header ← r.header? off
  let word ← Link.encode next
  r.putHeader off { header with next := word }

/-- Change the backward link of the header at `off`. -/
def setPrev (r : Region) (off : Nat) (prev : Option Nat) : Except MemoryError Region := do
  let header ← r.header? off
  let word ← Link.encode prev
  r.putHeader off { header with prev := word }

/-- Change both links of the header at `off`. -/
def setLinks (r : Region) (off : Nat) (next prev : Option Nat) : Except MemoryError Region := do
  let r ← r.setNext off next
  r.setPrev off prev

/-- The headers met from `start` along the forward links. A list of more than `most` headers is
refused: it must run in a circle. -/
def chain (r : Region) : (most : Nat) → (start : Option Nat) → Except MemoryError (List Listed)
  | _, none => .ok []
  | 0, some off => .error (.corrupt off "list is longer than the region can hold")
  | most + 1, some off => do
    let header ← r.header? off
    let rest ← r.chain most (Link.decode header.next)
    return ⟨off, header⟩ :: rest

end Region

end TrapKernel
