import TrapKernel.Cells
import TrapKernel.Serial.Buffer
import TrapKernel.Serial.Event

/-!
# Shared buffers and flags

A buffer is held at once by the process that owns it, by a request that waits and by the driver; a
flag by the driver and by the scheduler. All of them hold a handle, and `Shared` holds what the
handles stand for. Two handles refer to the same thing exactly when they are equal.
-/

namespace TrapKernel

/-- A handle to a buffer. -/
@[ext] structure BufferId where
  index : Nat
  deriving DecidableEq, Repr

/-- A handle to an event flag. -/
@[ext] structure FlagId where
  index : Nat
  deriving DecidableEq, Repr

/-- Every buffer and every flag, by handle. -/
structure Shared where
  buffers : Cells Buffer
  flags : Cells EventFlag
  /-- The handle that the next buffer gets. -/
  nextBuffer : Nat
  /-- The handle that the next flag gets. -/
  nextFlag : Nat

namespace Shared

/-- No buffer and no flag was made yet. -/
def empty : Shared := ⟨.blank, .blank, 0, 0⟩

/-- The buffer of a handle. -/
def buffer (s : Shared) (id : BufferId) : Buffer := s.buffers.get id.index

/-- The flag of a handle. -/
def flag (s : Shared) (id : FlagId) : EventFlag := s.flags.get id.index

/-- Replace the buffer of a handle. -/
def setBuffer (s : Shared) (id : BufferId) (b : Buffer) : Shared :=
  { s with buffers := s.buffers.set id.index b }

/-- Change the buffer of a handle. -/
def modifyBuffer (s : Shared) (id : BufferId) (f : Buffer → Buffer) : Shared :=
  s.setBuffer id (f (s.buffer id))

/-- Change the flag of a handle. -/
def modifyFlag (s : Shared) (id : FlagId) (f : EventFlag → EventFlag) : Shared :=
  { s with flags := s.flags.set id.index (f (s.flag id)) }

/-- Change the flag of a handle, if there is a handle. -/
def modifyFlag? (s : Shared) (id : Option FlagId) (f : EventFlag → EventFlag) : Shared :=
  match id with
  | none => s
  | some id => s.modifyFlag id f

/-- Add a buffer. -/
def addBuffer (s : Shared) (b : Buffer) : BufferId × Shared :=
  (⟨s.nextBuffer⟩, { s.setBuffer ⟨s.nextBuffer⟩ b with nextBuffer := s.nextBuffer + 1 })

/-- Add a flag that was never raised. -/
def addFlag (s : Shared) : FlagId × Shared :=
  (⟨s.nextFlag⟩, { s with flags := s.flags.set s.nextFlag .lowered, nextFlag := s.nextFlag + 1 })

theorem buffer_setBuffer (s : Shared) (i j : BufferId) (b : Buffer) :
    (s.setBuffer i b).buffer j = if i = j then b else s.buffer j := by
  simp [buffer, setBuffer, Cells.get_set, BufferId.ext_iff]

theorem buffer_modifyBuffer (s : Shared) (i j : BufferId) (f : Buffer → Buffer) :
    (s.modifyBuffer i f).buffer j = if i = j then f (s.buffer i) else s.buffer j :=
  buffer_setBuffer s i j (f (s.buffer i))

@[simp] theorem flag_setBuffer (s : Shared) (i : BufferId) (j : FlagId) (b : Buffer) :
    (s.setBuffer i b).flag j = s.flag j := rfl

theorem flag_modifyFlag (s : Shared) (i j : FlagId) (f : EventFlag → EventFlag) :
    (s.modifyFlag i f).flag j = if i = j then f (s.flag i) else s.flag j := by
  simp [flag, modifyFlag, Cells.get_set, FlagId.ext_iff]

@[simp] theorem buffer_modifyFlag (s : Shared) (i : FlagId) (j : BufferId)
    (f : EventFlag → EventFlag) : (s.modifyFlag i f).buffer j = s.buffer j := rfl

end Shared

end TrapKernel
