import TrapKernel.Proofs.Serial.Load

/-!
# What the driver does to the buffers

The driver moves bytes into the buffer of its transfer and sets its count, and never touches the code
of an error: it answers the reason of a refusal, and leaves it to others to write it down. And it
refuses nothing while it is open and has nothing to do, if the count of the buffer is one of bytes
that can be moved.
-/

namespace TrapKernel

/-- As many bytes as the count says can be moved: at least one, and no more than there is room for. -/
structure Buffer.Movable (b : Buffer) : Prop where
  pos : 0 < b.count
  fits : b.count ≤ b.capacity

namespace Shared

variable {s s' s'' : Shared}

/-- Every buffer has the code of the error that it had. -/
def SameCodes (s s' : Shared) : Prop := ∀ id, (s'.buffer id).error = (s.buffer id).error

theorem SameCodes.refl (s : Shared) : s.SameCodes s := fun _ => rfl

theorem SameCodes.trans (h : s.SameCodes s') (h' : s'.SameCodes s'') : s.SameCodes s'' :=
  fun id => (h' id).trans (h id)

theorem sameCodes_setBuffer (s : Shared) {id : BufferId} {b : Buffer}
    (same : b.error = (s.buffer id).error) : s.SameCodes (s.setBuffer id b) := by
  intro id'
  rw [buffer_setBuffer]
  split
  · rename_i eq
    rw [← eq, same]
  · rfl

theorem sameCodes_modifyFlag? (s : Shared) (id : Option FlagId) (f : EventFlag → EventFlag) :
    s.SameCodes (s.modifyFlag? id f) := by
  cases id <;> exact .refl s

end Shared

namespace SerialPort

open Shared

variable {p p' : SerialPort} {s s' : Shared} {e : FlagId} {id : BufferId} {direction : Direction}

/-! ### Codes -/

theorem sameCodes_publish (s : Shared) (t : Progress) : s.SameCodes (publish s t) := by
  unfold publish
  split
  · exact .refl s
  · exact s.sameCodes_setBuffer rfl

theorem sameCodes_completeRead (p : SerialPort) (s : Shared) :
    s.SameCodes (p.completeRead s).2 :=
  (sameCodes_publish s p.input).trans (sameCodes_modifyFlag? _ _ _)

theorem sameCodes_completeWrite (p : SerialPort) (s : Shared) :
    s.SameCodes (p.completeWrite s).2 :=
  (sameCodes_publish s p.output).trans (sameCodes_modifyFlag? _ _ _)

theorem error_drain (ring : Ring ringCapacity) (b : Buffer) (requested done : Nat) :
    (drain ring b requested done).buffer.error = b.error := by
  fun_induction drain ring b requested done with
  | case1 | case2 | case4 => rfl
  | case3 ring b done missing byte ring' took plain ih => exact ih

theorem sameCodes_transfer (done : p.transfer s direction id = .ok (p', s')) : s.SameCodes s' := by
  have cleared : s.SameCodes (p.clearEvent s) := sameCodes_modifyFlag? _ _ _
  cases direction with
  | read =>
    obtain ⟨count, drained, -, rfl, outcome⟩ := read_ok done
    have stored : s.SameCodes ((p.clearEvent s).setBuffer id
        (drain p.ring (s.buffer id) count 0).buffer) := by
      refine cleared.trans (sameCodes_setBuffer _ ?_)
      rw [error_drain, buffer_clearEvent]
    rcases outcome with ⟨-, -, rfl⟩ | ⟨-, -, rfl⟩
    · exact stored
    · exact stored.trans (sameCodes_completeRead _ _)
  | write =>
    obtain ⟨count, -, -, rfl⟩ := write_ok done
    exact cleared

theorem sameCodes_receive (p : SerialPort) (s : Shared) (byte : UInt8) :
    s.SameCodes (p.receive s byte).2 := by
  have completes : ∀ {p' : SerialPort} {s' : Shared}, s.SameCodes s' →
      s.SameCodes (p'.completeRead s').2 := fun stored =>
    stored.trans (sameCodes_completeRead _ _)
  unfold receive
  split
  · exact .refl s
  split
  · exact sameCodes_completeRead p s
  cases p.input.buffer with
  | none =>
    simp only []
    split
    · exact completes (.refl s)
    · exact .refl s
  | some id =>
    have stored : s.SameCodes (s.modifyBuffer id (·.store p.input.done byte)) :=
      s.sameCodes_setBuffer rfl
    simp only []
    split
    · exact completes stored
    · exact stored

theorem sameCodes_outputInterrupt (p : SerialPort) (s : Shared) :
    s.SameCodes (p.outputInterrupt s).2 := by
  unfold outputInterrupt
  split
  · exact .refl s
  split
  · exact .refl s
  · exact sameCodes_completeWrite p s

theorem sameCodes_handleInterrupt (p : SerialPort) (s : Shared) :
    s.SameCodes (p.handleInterrupt s).2.2 := by
  by_cases isOpen : p.isOpen = true
  · rw [handleInterrupt_eq isOpen]
    cases InterruptCause.decode (p.fetch .identify).1 with
    | none => exact .refl s
    | some cause =>
      cases cause with
      | modemStatus | lineStatus => exact .refl s
      | transmitterEmpty => exact sameCodes_outputInterrupt _ s
      | receivedData =>
        simp only [serve, inputInterrupt_eq]
        exact sameCodes_receive _ s _
  · unfold handleInterrupt
    rw [if_neg isOpen]
    exact .refl s

/-! ### Any number of interrupts -/

theorem sameCodes_serviceUpTo (p : SerialPort) (s : Shared) (most : Nat) :
    s.SameCodes (p.serviceUpTo s most).2.2 := by
  induction most generalizing p s with
  | zero => exact .refl s
  | succ most ih =>
    rw [serviceUpTo]
    split
    · exact (sameCodes_handleInterrupt p s).trans (ih _ _)
    · exact .refl s

theorem isOpen_serviceUpTo (p : SerialPort) (s : Shared) (most : Nat) :
    (p.serviceUpTo s most).2.1.isOpen = p.isOpen := by
  induction most generalizing p s with
  | zero => rfl
  | succ most ih =>
    rw [serviceUpTo]
    split
    · exact (ih _ _).trans (p.isOpen_handleInterrupt s)
    · rfl

/-- Whatever is on the line, the driver leaves the buffers alone that it does not work with. -/
theorem buffer_serviceUpTo_of_spares (settled : p.Settled) (flagged : p.Flagged e)
    (spares : p.Spares id) (s : Shared) (most : Nat) :
    (p.serviceUpTo s most).2.2.buffer id = s.buffer id := by
  induction most generalizing p s with
  | zero => rfl
  | succ most ih =>
    rw [serviceUpTo]
    split
    · have serves := handleInterrupt_serves settled flagged s
      exact (ih (serves.settled settled) (serves.flagged flagged) (serves.spares spares) _).trans
        (buffer_handleInterrupt_of_spares settled spares)
    · rfl

/-! ### A transfer -/

/-- Only the buffer of the transfer changes. -/
theorem buffer_transfer_of_ne {id' : BufferId}
    (done : p.transfer s direction id = .ok (p', s')) (other : id ≠ id') :
    s'.buffer id' = s.buffer id' := by
  cases direction with
  | read =>
    obtain ⟨count, drained, -, -, outcome⟩ := read_ok done
    have stored : ((p.clearEvent s).setBuffer id drained.buffer).buffer id' = s.buffer id' := by
      rw [buffer_setBuffer, if_neg other, buffer_clearEvent]
    rcases outcome with ⟨-, -, rfl⟩ | ⟨-, -, rfl⟩
    · exact stored
    · have kept : (p.begun id count drained).input.buffer ≠ some id' :=
        fun same => other (Option.some.inj same)
      exact (buffer_completeRead_of_ne kept).trans stored
  | write =>
    obtain ⟨count, -, -, rfl⟩ := write_ok done
    exact buffer_clearEvent p s id'

/-- An open port that has nothing to do refuses no buffer whose bytes can be moved. -/
theorem checkTransfer_of_movable {b : Buffer} (isOpen : p.isOpen = true) (idle : p.Idle)
    (movable : b.Movable) : p.checkTransfer b = .ok b.count := by
  have room : b.capacity ≠ 0 := by
    have := movable.pos
    have := movable.fits
    omega
  have fits : ¬ (b.count = 0 ∨ b.capacity < b.count) := by
    have := movable.pos
    have := movable.fits
    omega
  have free : ¬ p.status ≠ .idle := not_not.mpr idle
  rw [checkTransfer, isOpen, Bool.not_true, if_neg Bool.false_ne_true, if_neg room, if_neg fits,
    if_neg free]

theorem transfer_of_movable (isOpen : p.isOpen = true) (idle : p.Idle) (direction : Direction)
    (movable : (s.buffer id).Movable) : ∃ p' s', p.transfer s direction id = .ok (p', s') := by
  have checked := checkTransfer_of_movable isOpen idle movable
  cases direction with
  | read =>
    simp only [transfer, read, checked, bind, Except.bind]
    exact ⟨_, _, rfl⟩
  | write =>
    simp only [transfer, write, checked, bind, Except.bind]
    exact ⟨_, _, rfl⟩

end SerialPort

end TrapKernel
