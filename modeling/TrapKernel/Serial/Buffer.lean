/-!
# Transfer buffers

A process hands a buffer to the driver together with the number of bytes it wants moved. When the
transfer ends, the count tells how many bytes were moved, or the error code why none were.
-/

namespace TrapKernel

/-- A buffer and the count that goes with it. The count may exceed the room there is; the driver
refuses such a buffer. -/
structure Buffer where
  data : List UInt8
  /-- Requested count before a transfer, actual count after it. -/
  count : Nat
  /-- The code of the error that kept the transfer from running. -/
  error : Option Int
  deriving DecidableEq, Repr, Inhabited

namespace Buffer

/-- A buffer with the given bytes and requested count. -/
def ofParts (data : List UInt8) (count : Nat) : Buffer := ⟨data, count, none⟩

/-- A buffer for a read of up to `count` bytes. -/
def forRead (count : Nat) : Buffer := ofParts (List.replicate count 0) count

/-- A buffer of bytes that are all to be written. -/
def forWrite (data : List UInt8) : Buffer := ofParts data data.length

/-- Bytes of room. -/
def capacity (b : Buffer) : Nat := b.data.length

/-- The byte at an index. -/
def byte? (b : Buffer) (index : Nat) : Option UInt8 := b.data[index]?

/-- Store a byte at an index; outside the buffer nothing happens. -/
def store (b : Buffer) (index : Nat) (byte : UInt8) : Buffer :=
  { b with data := b.data.set index byte }

/-- Change the count. -/
def setCount (b : Buffer) (count : Nat) : Buffer := { b with count }

/-- The bytes that the count covers. -/
def contents (b : Buffer) : List UInt8 := b.data.take b.count

/-- Mark the transfer as failed. Nothing was moved. -/
def fail (b : Buffer) (code : Int) : Buffer := { b with count := 0, error := some code }

@[simp] theorem capacity_store (b : Buffer) (index : Nat) (byte : UInt8) :
    (b.store index byte).capacity = b.capacity := by
  simp [capacity, store]

end Buffer

end TrapKernel
