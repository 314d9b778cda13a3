import TrapKernel.Proofs.Serial.Ring

/-!
# First come, first taken

What a ring is for its callers: a `Fifo`, a list of bytes that grows at one end and shrinks at the
other, with a count of the bytes for which there was no room. It has no cells and no indices that
turn round. Whatever is asked of a ring, it answers as such a list does.
-/

namespace TrapKernel

/-- What can be asked of a ring. -/
inductive RingCall where
  | store (byte : UInt8)
  | take
  | clear
  deriving DecidableEq, Repr

/-- What the answer to a call says. -/
inductive RingAnswer where
  | stored (kept : Bool)
  | taken (byte : Option UInt8)
  | cleared
  deriving DecidableEq, Repr

/-- Bytes that wait, the oldest first, and how many were dropped. -/
structure Fifo where
  bytes : List UInt8
  dropped : Nat
  deriving DecidableEq, Repr

namespace Fifo

/-- No byte waits, and none was dropped. -/
def empty : Fifo := ⟨[], 0⟩

/-- Append a byte if fewer than `capacity` wait, else count it as dropped. -/
def store (capacity : Nat) (s : Fifo) (byte : UInt8) : Bool × Fifo :=
  if s.bytes.length < capacity then (true, { s with bytes := s.bytes ++ [byte] })
  else (false, { s with dropped := s.dropped + 1 })

/-- Remove the oldest byte, if one waits. -/
def take (s : Fifo) : Option UInt8 × Fifo := (s.bytes.head?, { s with bytes := s.bytes.tail })

/-- The answer to a call, and what waits after it. -/
def perform (capacity : Nat) (s : Fifo) : RingCall → RingAnswer × Fifo
  | .store byte =>
    let (kept, s) := s.store capacity byte
    (.stored kept, s)
  | .take =>
    let (byte, s) := s.take
    (.taken byte, s)
  | .clear => (.cleared, empty)

/-- What waits after a call. -/
def call (capacity : Nat) (s : Fifo) (call : RingCall) : Fifo := (s.perform capacity call).2

end Fifo

namespace Ring

variable {capacity : Nat} {r : Ring capacity} {s : Fifo}

/-- The answer to a call, and the ring after it. -/
def perform (r : Ring capacity) : RingCall → RingAnswer × Ring capacity
  | .store byte =>
    let (kept, r) := r.store byte
    (.stored kept, r)
  | .take =>
    let (byte, r) := r.take
    (.taken byte, r)
  | .clear => (.cleared, r.clear)

/-- The ring after a call. -/
def call (r : Ring capacity) (call : RingCall) : Ring capacity := (r.perform call).2

/-- A byte is kept unless the ring is full. -/
theorem store_kept (r : Ring capacity) (byte : UInt8) :
    (r.store byte).1 = decide (r.length < capacity) := by
  have le := r.length_le
  unfold store
  by_cases full : r.length = capacity
  · rw [dif_pos full]
    simp [full]
  · rw [dif_neg full]
    exact (decide_eq_true (Nat.lt_of_le_of_ne le full)).symm

/-- The bytes of the list wait in the ring, and the next one goes behind them. -/
structure Tracks (r : Ring capacity) (s : Fifo) : Prop where
  aligned : r.Aligned
  bytes : r.toList = s.bytes
  dropped : r.dropped = s.dropped

namespace Tracks

theorem empty : (Ring.empty : Ring capacity).Tracks Fifo.empty where
  aligned := (Nat.zero_mod capacity).symm
  bytes := toList_eq_nil rfl
  dropped := rfl

theorem clear (r : Ring capacity) : r.clear.Tracks Fifo.empty where
  aligned := r.aligned_clear
  bytes := r.toList_clear
  dropped := rfl

theorem length (h : r.Tracks s) : r.length = s.bytes.length := by
  rw [← h.bytes, length_toList]

theorem store (h : r.Tracks s) (byte : UInt8) :
    (r.store byte).1 = (s.store capacity byte).1 ∧
      (r.store byte).2.Tracks (s.store capacity byte).2 := by
  have kept := r.store_kept byte
  rw [h.length] at kept
  unfold Fifo.store
  by_cases room : s.bytes.length < capacity
  · rw [if_pos room]
    obtain ⟨aligned, bytes, dropped⟩ := store_room h.aligned (h.length ▸ room) byte
    refine ⟨kept.trans (decide_eq_true room), aligned, ?_, dropped.trans h.dropped⟩
    rw [bytes, h.bytes]
  · rw [if_neg room]
    have full : r.length = capacity :=
      Nat.le_antisymm r.length_le (h.length ▸ Nat.le_of_not_lt room)
    obtain ⟨aligned, bytes, dropped⟩ := store_full h.aligned full byte
    refine ⟨kept.trans (decide_eq_false room), aligned, bytes.trans h.bytes, ?_⟩
    rw [dropped, h.dropped]

theorem take (h : r.Tracks s) :
    r.take.1 = s.take.1 ∧ r.take.2.Tracks s.take.2 := by
  unfold Fifo.take
  rcases r.take_cases with ⟨nothing, eq⟩ | ⟨byte, r', eq, oldest, aligned, dropped⟩
  · have none : s.bytes = [] := h.bytes.symm.trans nothing
    rw [eq, none]
    exact ⟨rfl, h.aligned, nothing, h.dropped⟩
  · have first : s.bytes = byte :: r'.toList := h.bytes.symm.trans oldest
    rw [eq, first]
    exact ⟨rfl, aligned h.aligned, rfl, dropped.trans h.dropped⟩

/-- A call has the same answer, and what waits afterwards is the same. -/
theorem perform (h : r.Tracks s) (call : RingCall) :
    (r.perform call).1 = (s.perform capacity call).1 ∧
      (r.perform call).2.Tracks (s.perform capacity call).2 := by
  cases call with
  | store byte =>
    obtain ⟨kept, tracks⟩ := h.store byte
    exact ⟨congrArg RingAnswer.stored kept, tracks⟩
  | take =>
    obtain ⟨byte, tracks⟩ := h.take
    exact ⟨congrArg RingAnswer.taken byte, tracks⟩
  | clear => exact ⟨rfl, clear r⟩

theorem calls (h : r.Tracks s) (calls : List RingCall) :
    (calls.foldl Ring.call r).Tracks (calls.foldl (Fifo.call capacity) s) := by
  induction calls generalizing r s with
  | nil => exact h
  | cons call calls ih => exact ih (h.perform call).2

end Tracks

/-- The ring is the list to whoever calls it: it answers the same and shows the same. -/
structure Plays (r : Ring capacity) (s : Fifo) : Prop where
  bytes : r.toList = s.bytes
  answer : ∀ call, (r.perform call).1 = (s.perform capacity call).1
  length : r.length = s.bytes.length
  isEmpty : r.isEmpty = s.bytes.isEmpty
  dropped : r.dropped = s.dropped
  bounded : s.bytes.length ≤ capacity
  /-- A byte for which there is room is written inside the ring, and the ring that the index turns
  round in is not empty. -/
  writes : r.length ≠ capacity → r.head < capacity ∧ 0 < capacity
  /-- A byte that waits is read inside the ring. -/
  reads : r.length ≠ 0 → r.tail < capacity ∧ 0 < capacity

theorem Tracks.plays (h : r.Tracks s) : r.Plays s where
  bytes := h.bytes
  answer call := (h.perform call).1
  length := h.length
  isEmpty := by
    rw [Ring.isEmpty, h.length]
    cases s.bytes <;> simp
  dropped := h.dropped
  bounded := h.length ▸ r.length_le
  writes notFull := by
    have pos : 0 < capacity := Nat.zero_lt_of_lt (Nat.lt_of_le_of_ne r.length_le notFull)
    exact ⟨r.head_lt pos, pos⟩
  reads waits := by
    have pos : 0 < capacity := Nat.lt_of_lt_of_le (Nat.pos_of_ne_zero waits) r.length_le
    exact ⟨r.tail_lt pos, pos⟩

/-- Whatever was asked of a new ring of any capacity, it has become the list of which the same was
asked, and it goes on answering as the list does. -/
theorem fifo_calls (capacity : Nat) (calls : List RingCall) :
    (calls.foldl call (empty : Ring capacity)).Plays
      (calls.foldl (Fifo.call capacity) Fifo.empty) :=
  (Tracks.empty.calls calls).plays

/-- The one cell of a ring is written to again once its byte was taken, and not before. -/
example : (([.store 1, .store 2, .take, .store 3].foldl call (empty : Ring 1)).perform .take).1 =
    .taken (some 3) := by decide

end Ring

end TrapKernel
