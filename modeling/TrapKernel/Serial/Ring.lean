/-!
# Receive rings

A ring holds the bytes that arrive while nobody reads. It has room for a fixed number of bytes;
what arrives when it is full is dropped and counted. The bytes that wait leave in the order in
which they came.
-/

namespace TrapKernel

/-- A ring with room for `capacity` bytes. -/
structure Ring (capacity : Nat) where
  cells : Vector UInt8 capacity
  /-- The cell that the next byte goes to. -/
  head : Nat
  /-- The cell of the oldest byte. -/
  tail : Nat
  /-- How many bytes wait. -/
  length : Nat
  /-- How many bytes were dropped since the ring was last cleared. -/
  dropped : Nat
  head_lt : 0 < capacity → head < capacity
  tail_lt : 0 < capacity → tail < capacity
  length_le : length ≤ capacity

namespace Ring

variable {capacity : Nat}

/-- A ring in which no byte waits. -/
def empty : Ring capacity where
  cells := Vector.replicate capacity 0
  head := 0
  tail := 0
  length := 0
  dropped := 0
  head_lt := id
  tail_lt := id
  length_le := Nat.zero_le _

/-- No byte waits. -/
def isEmpty (r : Ring capacity) : Bool := r.length = 0

/-- Store a byte. The answer is false if the ring was full and the byte was dropped. -/
def store (r : Ring capacity) (byte : UInt8) : Bool × Ring capacity :=
  if full : r.length = capacity then (false, { r with dropped := r.dropped + 1 })
  else
    have room : r.length < capacity := Nat.lt_of_le_of_ne r.length_le full
    have pos : 0 < capacity := Nat.lt_of_le_of_lt (Nat.zero_le _) room
    (true, { r with
      cells := r.cells.set r.head byte (r.head_lt pos)
      head := (r.head + 1) % capacity
      length := r.length + 1
      head_lt := fun _ => Nat.mod_lt _ pos
      length_le := room })

/-- Take the oldest byte, if one waits. -/
def take (r : Ring capacity) : Option UInt8 × Ring capacity :=
  if empty : r.length = 0 then (none, r)
  else
    have pos : 0 < capacity := Nat.lt_of_lt_of_le (Nat.pos_of_ne_zero empty) r.length_le
    have bound : r.tail < capacity := r.tail_lt pos
    (some r.cells[r.tail], { r with
      tail := (r.tail + 1) % capacity
      length := r.length - 1
      tail_lt := fun _ => Nat.mod_lt _ pos
      length_le := Nat.le_trans (Nat.sub_le _ _) r.length_le })

/-- Forget every byte, and the count of the dropped ones. -/
def clear (r : Ring capacity) : Ring capacity :=
  { r with
    head := 0
    tail := 0
    length := 0
    dropped := 0
    head_lt := id
    tail_lt := id
    length_le := Nat.zero_le _ }

/-- Store bytes one after the other. The answer counts those that were not dropped. -/
def storeAll (r : Ring capacity) : List UInt8 → Nat × Ring capacity
  | [] => (0, r)
  | byte :: bytes =>
    let (stored, r) := r.store byte
    let (count, r) := r.storeAll bytes
    (if stored then count + 1 else count, r)

/-- Take at most `count` bytes, the oldest first. -/
def takeMany (r : Ring capacity) : Nat → List UInt8 × Ring capacity
  | 0 => ([], r)
  | count + 1 =>
    match r.take with
    | (none, r) => ([], r)
    | (some byte, r) =>
      let (bytes, r) := r.takeMany count
      (byte :: bytes, r)

end Ring

end TrapKernel
