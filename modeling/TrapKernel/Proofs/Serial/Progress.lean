import TrapKernel.Serial.Port

/-!
# The progress of a transfer

What the driver makes of a transfer, from the moment it is handed over until it ends. A transfer
that the driver accepts ends at once or is what the driver `WorksOn`. From then on every interrupt
either `GoesOn` with it or `Ends` it: the flag of the port is raised once, the number of bytes moved
stands in the buffer, and the driver has nothing to do.
-/

namespace TrapKernel

/-- What the driver does during a transfer in a direction. -/
def Direction.status : Direction → DeviceStatus
  | read => .reading
  | write => .writing

theorem Direction.status_ne_idle (direction : Direction) : direction.status ≠ .idle := by
  cases direction <;> nofun

theorem Direction.status_injective {a b : Direction} (same : a.status = b.status) : a = b := by
  cases a <;> cases b <;> first | rfl | cases same

namespace SerialPort

variable {p p' p'' : SerialPort} {s s' s'' : Shared} {e : FlagId} {id id' : BufferId}
  {direction : Direction}

/-- How far the last transfer in a direction went. -/
def progress (p : SerialPort) : Direction → Progress
  | .read => p.input
  | .write => p.output

/-- The driver has nothing to do. -/
def Idle (p : SerialPort) : Prop := p.status = .idle

instance (p : SerialPort) : Decidable p.Idle := inferInstanceAs (Decidable (_ = _))

/-- The driver moves bytes in this direction, from or to this buffer. -/
structure WorksOn (p : SerialPort) (direction : Direction) (id : BufferId) : Prop where
  status : p.status = direction.status
  buffer : (p.progress direction).buffer = some id

/-- The driver has nothing to do, or a buffer to do it with. -/
def Settled (p : SerialPort) : Prop := p.Idle ∨ ∃ direction id, p.WorksOn direction id

/-- While the port is open, its flag is this one. -/
def Flagged (p : SerialPort) (e : FlagId) : Prop := p.isOpen = true → p.event = some e

theorem WorksOn.not_idle (works : p.WorksOn direction id) : ¬ p.Idle := by
  intro idle
  exact direction.status_ne_idle (works.status.symm.trans idle)

theorem Settled.worksOn (settled : p.Settled) (busy : p.status = direction.status) :
    ∃ id, p.WorksOn direction id := by
  rcases settled with idle | ⟨direction', id, works⟩
  · exact absurd (busy.symm.trans idle) direction.status_ne_idle
  · obtain rfl := Direction.status_injective (works.status.symm.trans busy)
    exact ⟨id, works⟩

/-! ### Steps of the driver -/

/-- The driver goes on with what it does. If that is nothing, nothing happens to the buffers. -/
structure GoesOn (p p' : SerialPort) (s s' : Shared) : Prop where
  isOpen : p'.isOpen = p.isOpen
  event : p'.event = p.event
  status : p'.status = p.status
  buffer : ∀ direction, (p'.progress direction).buffer = (p.progress direction).buffer
  flags : s'.flags = s.flags
  idle : p.Idle → s' = s ∧ ∀ direction, p'.progress direction = p.progress direction

/-- The transfer ends: the driver has nothing to do, the flag is raised, and the buffer tells how
many bytes were moved. -/
structure Ends (e : FlagId) (direction : Direction) (id : BufferId) (p p' : SerialPort)
    (s s' : Shared) : Prop where
  works : p.WorksOn direction id
  isOpen : p'.isOpen = p.isOpen
  event : p'.event = p.event
  idle : p'.Idle
  flag : s'.flag e = (s.flag e).raise
  count : (s'.buffer id).count = (p'.progress direction).done

/-- What any number of interrupts may do to a transfer. -/
def Serves (e : FlagId) (p p' : SerialPort) (s s' : Shared) : Prop :=
  p.GoesOn p' s s' ∨ ∃ direction id, Ends e direction id p p' s s'

namespace GoesOn

theorem refl (p : SerialPort) (s : Shared) : p.GoesOn p s s :=
  ⟨rfl, rfl, rfl, fun _ => rfl, rfl, fun _ => ⟨rfl, fun _ => rfl⟩⟩

/-- The device and the ring of the driver are its own business. -/
theorem frame (p : SerialPort) (uart : Uart) (ring : Ring ringCapacity) (s : Shared) :
    p.GoesOn { p with uart, ring } s s := by
  refine ⟨rfl, rfl, rfl, ?_, rfl, fun _ => ⟨rfl, ?_⟩⟩
  · intro direction
    cases direction <;> rfl
  · intro direction
    cases direction <;> rfl

theorem trans (h : p.GoesOn p' s s') (h' : p'.GoesOn p'' s' s'') : p.GoesOn p'' s s'' where
  isOpen := h'.isOpen.trans h.isOpen
  event := h'.event.trans h.event
  status := h'.status.trans h.status
  buffer := fun direction => (h'.buffer direction).trans (h.buffer direction)
  flags := h'.flags.trans h.flags
  idle := by
    intro idle
    obtain ⟨same, done⟩ := h.idle idle
    obtain ⟨same', done'⟩ := h'.idle (h.status.trans idle)
    exact ⟨same'.trans same, fun direction => (done' direction).trans (done direction)⟩

theorem flag (h : p.GoesOn p' s s') (e : FlagId) : s'.flag e = s.flag e := by
  rw [Shared.flag, Shared.flag, h.flags]

theorem worksOn (h : p.GoesOn p' s s') :
    p'.WorksOn direction id ↔ p.WorksOn direction id := by
  constructor
  · intro works
    exact ⟨h.status.symm.trans works.status, (h.buffer direction).symm.trans works.buffer⟩
  · intro works
    exact ⟨h.status.trans works.status, (h.buffer direction).trans works.buffer⟩

theorem settled (h : p.GoesOn p' s s') (settled : p.Settled) : p'.Settled := by
  rcases settled with idle | ⟨direction, id, works⟩
  · exact Or.inl (h.status.trans idle)
  · exact Or.inr ⟨direction, id, h.worksOn.mpr works⟩

theorem flagged (h : p.GoesOn p' s s') (flagged : p.Flagged e) : p'.Flagged e := by
  intro isOpen
  rw [h.event]
  exact flagged (h.isOpen.symm.trans isOpen)

end GoesOn

namespace Serves

theorem settled (h : Serves e p p' s s') (settled : p.Settled) : p'.Settled := by
  rcases h with on | ⟨direction, id, ends⟩
  · exact on.settled settled
  · exact Or.inl ends.idle

theorem flagged (h : Serves e p p' s s') (flagged : p.Flagged e) : p'.Flagged e := by
  rcases h with on | ⟨direction, id, ends⟩
  · exact on.flagged flagged
  · intro isOpen
    rw [ends.event]
    exact flagged (ends.isOpen.symm.trans isOpen)

/-- A transfer ends only once: after that the driver has nothing to do. -/
theorem trans (h : Serves e p p' s s') (h' : Serves e p' p'' s' s'') : Serves e p p'' s s'' := by
  rcases h with on | ⟨direction, id, ends⟩
  · rcases h' with on' | ⟨direction, id, ends'⟩
    · exact Or.inl (on.trans on')
    · refine Or.inr ⟨direction, id, on.worksOn.mp ends'.works, ?_, ?_, ends'.idle, ?_, ends'.count⟩
      · exact ends'.isOpen.trans on.isOpen
      · exact ends'.event.trans on.event
      · rw [ends'.flag, on.flag]
  · rcases h' with on' | ⟨direction', id', ends'⟩
    · obtain ⟨rfl, done⟩ := on'.idle ends.idle
      refine Or.inr ⟨direction, id, ends.works, ?_, ?_, ?_, ends.flag, ?_⟩
      · exact on'.isOpen.trans ends.isOpen
      · exact on'.event.trans ends.event
      · exact on'.status.trans ends.idle
      · rw [done]
        exact ends.count
    · exact absurd ends.idle ends'.works.not_idle

end Serves

/-! ### Opening -/

theorem openWith_ok {rate : Nat} (uart : Uart) (event : FlagId) (base : UInt16)
    (supported : (BaudRate.ofRate? rate).isSome) :
    ∃ port, (SerialPort.create uart base).openWith (some event) rate = .ok port := by
  obtain ⟨baud, found⟩ := Option.isSome_iff_exists.mp supported
  unfold SerialPort.openWith
  rw [found]
  exact ⟨_, rfl⟩

/-- A port that was opened has nothing to do. -/
theorem openWith_idle {event : Option FlagId} {rate : Nat}
    (opened : p.openWith event rate = .ok p') :
    p'.isOpen = true ∧ p'.Idle ∧ p'.event = event ∧ event.isSome = true := by
  unfold SerialPort.openWith at opened
  split at opened
  · cases opened
  · cases opened
  · split at opened
    · cases opened
    · cases opened
      exact ⟨rfl, rfl, rfl, rfl⟩

theorem openWith_flagged {rate : Nat} (opened : p.openWith (some e) rate = .ok p') :
    p'.Flagged e := fun _ => (openWith_idle opened).2.2.1

/-! ### The end of a transfer -/

theorem publish_eq {t : Progress} (buffer : t.buffer = some id) :
    publish s t = s.modifyBuffer id (·.setCount t.done) := by
  rw [publish, buffer]

theorem raise_eq (flagged : p.event = some e) : p.raise s = s.modifyFlag e (·.raise) := by
  rw [raise, flagged]
  rfl

theorem clearEvent_eq (flagged : p.event = some e) :
    p.clearEvent s = s.modifyFlag e (·.clear) := by
  rw [clearEvent, flagged]
  rfl

theorem completeRead_ends (works : p.WorksOn .read id) (flagged : p.event = some e) :
    Ends e .read id p (p.completeRead s).1 s (p.completeRead s).2 := by
  have buffer : p.input.buffer = some id := works.buffer
  simp only [completeRead, publish_eq buffer, raise_eq flagged]
  refine ⟨works, rfl, rfl, rfl, ?_, ?_⟩
  · simp [Shared.flag_modifyFlag, Shared.modifyBuffer]
  · simp [Shared.buffer_modifyBuffer, Buffer.setCount, progress]

theorem completeWrite_ends (works : p.WorksOn .write id) (flagged : p.event = some e) :
    Ends e .write id p (p.completeWrite s).1 s (p.completeWrite s).2 := by
  have buffer : p.output.buffer = some id := works.buffer
  simp only [completeWrite, publish_eq buffer, raise_eq flagged]
  refine ⟨works, rfl, rfl, rfl, ?_, ?_⟩
  · simp [Shared.flag_modifyFlag, Shared.modifyBuffer]
  · simp [Shared.buffer_modifyBuffer, Buffer.setCount, progress]

/-! ### The start of a transfer -/

theorem checkTransfer_ok {b : Buffer} {count : Nat} (checked : p.checkTransfer b = .ok count) :
    p.isOpen = true ∧ p.Idle ∧ count = b.count ∧ 0 < count ∧ count ≤ b.capacity := by
  unfold checkTransfer at checked
  split at checked
  · cases checked
  rename_i isOpen
  split at checked
  · cases checked
  split at checked
  · cases checked
  rename_i fits
  split at checked
  · cases checked
  rename_i idle
  obtain rfl := Except.ok.inj checked
  obtain ⟨pos, le⟩ := not_or.mp fits
  refine ⟨by simpa using isOpen, Decidable.not_not.mp idle, rfl, ?_, ?_⟩
  · exact Nat.pos_of_ne_zero pos
  · exact Nat.le_of_not_lt le

theorem checkTransfer_busy {b : Buffer} (checked : p.checkTransfer b = .error .busy) :
    ¬ p.Idle := by
  unfold checkTransfer at checked
  split at checked
  · cases checked
  split at checked
  · cases checked
  split at checked
  · cases checked
  split at checked
  · rename_i busy
    exact busy
  · cases checked

/-- The port once a read took what waited in the ring. -/
def begun (p : SerialPort) (id : BufferId) (count : Nat) (drained : Drained) : SerialPort :=
  { p.onUart (·.disableInterrupts) with
    status := .reading, ring := drained.ring, input := ⟨some id, count, drained.done⟩ }

/-- A read that starts takes what waits in the ring, and ends if that is enough. -/
theorem read_ok (done : p.read s id = .ok (p', s')) :
    ∃ count drained, p.checkTransfer (s.buffer id) = .ok count ∧
      drain p.ring (s.buffer id) count 0 = drained ∧
      let q := p.begun id count drained
      let t := (p.clearEvent s).setBuffer id drained.buffer
      (¬ (drained.terminated = true ∨ count ≤ drained.done) ∧
          p' = q.onUart (·.enableInterrupts) ∧ s' = t ∨
        (drained.terminated = true ∨ count ≤ drained.done) ∧
          p' = (q.completeRead t).1.onUart (·.enableInterrupts) ∧ s' = (q.completeRead t).2) := by
  unfold read at done
  simp only [bind, Except.bind] at done
  cases checked : p.checkTransfer (s.buffer id) with
  | error e =>
    rw [checked] at done
    cases done
  | ok count =>
    rw [checked] at done
    refine ⟨count, _, rfl, rfl, ?_⟩
    simp only [pure, Except.pure, Except.ok.injEq, Bool.or_eq_true, Progress.isSatisfied,
      decide_eq_true_eq] at done
    by_cases enough : (drain p.ring (s.buffer id) count 0).terminated = true ∨
        count ≤ (drain p.ring (s.buffer id) count 0).done
    · have stops : (drain (p.onUart (·.disableInterrupts)).ring (s.buffer id) count 0).terminated =
          true ∨ count ≤ (drain (p.onUart (·.disableInterrupts)).ring (s.buffer id) count 0).done :=
        enough
      rw [if_pos stops] at done
      cases done
      exact Or.inr ⟨enough, rfl, rfl⟩
    · have more : ¬ ((drain (p.onUart (·.disableInterrupts)).ring (s.buffer id) count 0).terminated
          = true ∨
          count ≤ (drain (p.onUart (·.disableInterrupts)).ring (s.buffer id) count 0).done) :=
        enough
      rw [if_neg more] at done
      cases done
      exact Or.inl ⟨enough, rfl, rfl⟩

/-- The port once a write sent its first byte. -/
def sent (p : SerialPort) (id : BufferId) (count : Nat) (byte : UInt8) : SerialPort :=
  let q := { p.onUart (·.disableInterrupts) with
    status := .writing, output := ⟨some id, count, 1⟩ }.put .data byte
  ((q.fetch .enable).2.put .enable ((q.fetch .enable).1 ||| transmitterEmptyBit)).onUart
    (·.enableInterrupts)

/-- A write that starts sends its first byte. -/
theorem write_ok (done : p.write s id = .ok (p', s')) :
    ∃ count, p.checkTransfer (s.buffer id) = .ok count ∧
      p' = p.sent id count (((s.buffer id).byte? 0).getD 0) ∧ s' = p.clearEvent s := by
  unfold write at done
  simp only [bind, Except.bind] at done
  cases checked : p.checkTransfer (s.buffer id) with
  | error e =>
    rw [checked] at done
    cases done
  | ok count =>
    rw [checked] at done
    cases done
    exact ⟨count, rfl, rfl, rfl⟩

/-- The driver never answers that it is busy while it has nothing to do. -/
theorem transfer_ne_busy (idle : p.Idle) (s : Shared) (direction : Direction) (id : BufferId) :
    p.transfer s direction id ≠ .error .busy := by
  have notBusy : p.checkTransfer (s.buffer id) ≠ .error .busy :=
    fun checked => checkTransfer_busy checked idle
  cases direction with
  | read =>
    simp only [transfer, read, bind, Except.bind]
    cases checked : p.checkTransfer (s.buffer id) with
    | error e =>
      intro same
      cases same
      exact notBusy checked
    | ok count => nofun
  | write =>
    simp only [transfer, write, bind, Except.bind]
    cases checked : p.checkTransfer (s.buffer id) with
    | error e =>
      intro same
      cases same
      exact notBusy checked
    | ok count => nofun

/-- A transfer that the driver accepts is what it works on, or has ended. -/
theorem transfer_ok (flagged : p.Flagged e) (done : p.transfer s direction id = .ok (p', s')) :
    p.Idle ∧ p'.isOpen = p.isOpen ∧ p'.event = p.event ∧
      (p'.WorksOn direction id ∧ s'.flag e = (s.flag e).clear ∨
        p'.Idle ∧ s'.flag e = (s.flag e).clear.raise ∧
          (s'.buffer id).count = (p'.progress direction).done) := by
  cases direction with
  | read =>
    obtain ⟨count, drained, checked, -, outcome⟩ := read_ok done
    obtain ⟨isOpen, idle, -⟩ := checkTransfer_ok checked
    have event := flagged isOpen
    refine ⟨idle, ?_⟩
    rcases outcome with ⟨-, rfl, rfl⟩ | ⟨-, rfl, rfl⟩
    · refine ⟨rfl, rfl, Or.inl ⟨⟨rfl, rfl⟩, ?_⟩⟩
      rw [clearEvent_eq event, Shared.flag_setBuffer, Shared.flag_modifyFlag, if_pos rfl]
    · have ends := completeRead_ends (p := p.begun id count drained)
        (s := (p.clearEvent s).setBuffer id drained.buffer) ⟨rfl, rfl⟩ event
      refine ⟨ends.isOpen, ends.event, Or.inr ⟨ends.idle, ?_, ends.count⟩⟩
      rw [ends.flag, clearEvent_eq event, Shared.flag_setBuffer, Shared.flag_modifyFlag, if_pos rfl]
  | write =>
    obtain ⟨count, checked, rfl, rfl⟩ := write_ok done
    obtain ⟨isOpen, idle, -⟩ := checkTransfer_ok checked
    refine ⟨idle, rfl, rfl, Or.inl ⟨⟨rfl, rfl⟩, ?_⟩⟩
    rw [clearEvent_eq (flagged isOpen), Shared.flag_modifyFlag, if_pos rfl]

/-! ### Interrupts -/

theorem inputInterrupt_serves (settled : p.Settled) (event : p.event = some e) :
    Serves e p (p.inputInterrupt s).1 s (p.inputInterrupt s).2 := by
  let q := (p.fetch .data).2
  have fetched : p.GoesOn q s s := GoesOn.frame p q.uart p.ring s
  unfold inputInterrupt
  simp only []
  split
  · rename_i notReading
    exact Or.inl (fetched.trans (GoesOn.frame q q.uart _ s))
  rename_i reading
  have reading : p.status = Direction.read.status := Decidable.not_not.mp reading
  obtain ⟨id, works⟩ := settled.worksOn reading
  have buffer : p.input.buffer = some id := works.buffer
  split
  · exact Serves.trans (Or.inl fetched)
      (Or.inr ⟨.read, id, completeRead_ends (fetched.worksOn.mpr works) event⟩)
  · rw [show (p.fetch .data).2.input.buffer = some id from buffer]
    simp only []
    -- the byte is stored, and counted
    have stored : p.GoesOn
        { q with input := ⟨some id, p.input.requested, p.input.done + 1⟩ } s
        (s.modifyBuffer id (·.store p.input.done (p.fetch .data).1)) := by
      refine ⟨rfl, rfl, rfl, ?_, rfl, fun idle => absurd idle works.not_idle⟩
      intro direction
      cases direction with
      | read => exact buffer.symm
      | write => rfl
    split
    · exact Serves.trans (Or.inl stored)
        (Or.inr ⟨.read, id, completeRead_ends (stored.worksOn.mpr works) event⟩)
    · exact Or.inl stored

theorem outputInterrupt_serves (settled : p.Settled) (event : p.event = some e) :
    Serves e p (p.outputInterrupt s).1 s (p.outputInterrupt s).2 := by
  unfold outputInterrupt
  split
  · exact Or.inl (GoesOn.refl p s)
  rename_i writing
  have writing : p.status = Direction.write.status := Decidable.not_not.mp writing
  obtain ⟨id, works⟩ := settled.worksOn writing
  split
  · refine Or.inl ⟨rfl, rfl, rfl, ?_, rfl, fun idle => absurd idle works.not_idle⟩
    intro direction
    cases direction <;> rfl
  · have ends := completeWrite_ends (s := s) works event
    exact Serves.trans (Or.inr ⟨.write, id, ends⟩)
      (Or.inl (GoesOn.frame (p.completeWrite s).1 _ _ _))

/-- What is done for the cause of an interrupt. -/
def serve (p : SerialPort) (s : Shared) : Option InterruptCause → SerialPort × Shared
  | some .modemStatus => (p.touch .modemStatus, s)
  | some .transmitterEmpty => p.outputInterrupt s
  | some .receivedData => p.inputInterrupt s
  | some .lineStatus => (p.touch .lineStatus, s)
  | none => (p, s)

/-- The cause is identified, served and acknowledged. -/
theorem handleInterrupt_eq (isOpen : p.isOpen = true) (s : Shared) :
    p.handleInterrupt s =
      let cause := InterruptCause.decode (p.fetch .identify).1
      let served := (p.fetch .identify).2.serve s cause
      (cause, served.1.onUart (·.outb picCommandPort endOfInterrupt), served.2) := by
  unfold handleInterrupt
  rw [if_pos isOpen]
  simp only []
  cases InterruptCause.decode (p.fetch .identify).1 with
  | none => rfl
  | some cause => cases cause <;> rfl

theorem serve_serves (settled : p.Settled) (event : p.event = some e) (s : Shared)
    (cause : Option InterruptCause) : Serves e p (p.serve s cause).1 s (p.serve s cause).2 := by
  cases cause with
  | none => exact Or.inl (GoesOn.refl p s)
  | some cause =>
    cases cause with
    | modemStatus => exact Or.inl (GoesOn.frame p _ p.ring s)
    | transmitterEmpty => exact outputInterrupt_serves settled event
    | receivedData => exact inputInterrupt_serves settled event
    | lineStatus => exact Or.inl (GoesOn.frame p _ p.ring s)

/-- An interrupt goes on with the transfer or ends it. -/
theorem handleInterrupt_serves (settled : p.Settled) (flagged : p.Flagged e) (s : Shared) :
    Serves e p (p.handleInterrupt s).2.1 s (p.handleInterrupt s).2.2 := by
  by_cases isOpen : p.isOpen = true
  · have fetched := GoesOn.frame p (p.fetch .identify).2.uart p.ring s
    rw [handleInterrupt_eq isOpen]
    have served := serve_serves (fetched.settled settled) (flagged isOpen) s
      (InterruptCause.decode (p.fetch .identify).1)
    exact Serves.trans (Or.inl fetched) (served.trans (Or.inl (GoesOn.frame _ _ _ _)))
  · unfold handleInterrupt
    rw [if_neg isOpen]
    exact Or.inl (GoesOn.frame p _ p.ring s)

theorem serviceUpTo_serves (settled : p.Settled) (flagged : p.Flagged e) (s : Shared)
    (most : Nat) : Serves e p (p.serviceUpTo s most).2.1 s (p.serviceUpTo s most).2.2 := by
  induction most generalizing p s with
  | zero => exact Or.inl (GoesOn.refl p s)
  | succ most ih =>
    rw [serviceUpTo]
    split
    · have first := handleInterrupt_serves settled flagged s
      exact first.trans (ih (first.settled settled) (first.flagged flagged) _)
    · exact Or.inl (GoesOn.refl p s)

theorem serviceInterrupts_serves (settled : p.Settled) (flagged : p.Flagged e) (s : Shared) :
    Serves e p (p.serviceInterrupts s).2.1 s (p.serviceInterrupts s).2.2 :=
  serviceUpTo_serves settled flagged s maxInterruptsPerPoll

end SerialPort

end TrapKernel
