import TrapKernel.Proofs.Serial.Transmit

/-!
# A transfer from its start to its end

Whatever the driver is at, interrupts change no buffer but that of its transfer; it `Spares` all
others. A transfer that the driver accepts is what it `Carries` from then on: nothing but the bytes of
that transfer is sent, until the driver has nothing to do.
-/

namespace TrapKernel

namespace SerialPort

variable {p p' : SerialPort} {s s' : Shared} {e : FlagId} {id : BufferId} {b : Buffer}
  {before : List UInt8} {direction : Direction}

/-! ### Buffers -/

/-- The driver works on no transfer with this buffer. -/
def Spares (p : SerialPort) (id : BufferId) : Prop := ∀ direction, ¬ p.WorksOn direction id

theorem Idle.spares (idle : p.Idle) (id : BufferId) : p.Spares id :=
  fun _ works => works.not_idle idle

theorem WorksOn.spares {id' : BufferId} (works : p.WorksOn direction id) (other : id ≠ id') :
    p.Spares id' := by
  intro direction' works'
  obtain rfl := Direction.status_injective (works.status.symm.trans works'.status)
  exact other (Option.some.inj (works.buffer.symm.trans works'.buffer))

theorem Serves.spares (h : Serves e p p' s s') (spares : p.Spares id) : p'.Spares id := by
  rcases h with on | ⟨direction, id', ends⟩
  · exact fun direction works => spares direction (on.worksOn.mp works)
  · exact ends.idle.spares id

theorem buffer_publish_of_ne {t : Progress} (other : t.buffer ≠ some id) :
    (publish s t).buffer id = s.buffer id := by
  cases buffer : t.buffer with
  | none => rw [publish, buffer]
  | some id' =>
    rw [publish_eq buffer, Shared.buffer_modifyBuffer, if_neg]
    rintro rfl
    exact other buffer

theorem buffer_completeRead_of_ne (other : p.input.buffer ≠ some id) :
    (p.completeRead s).2.buffer id = s.buffer id :=
  (buffer_raise _ _ id).trans (buffer_publish_of_ne other)

theorem buffer_completeWrite_of_ne (other : p.output.buffer ≠ some id) :
    (p.completeWrite s).2.buffer id = s.buffer id :=
  (buffer_raise _ _ id).trans (buffer_publish_of_ne other)

theorem buffer_receive_of_spares (settled : p.Settled) (spares : p.Spares id) (byte : UInt8) :
    (p.receive s byte).2.buffer id = s.buffer id := by
  by_cases reading : p.status = .reading
  · have busy : p.status = Direction.read.status := reading
    obtain ⟨id', works⟩ := settled.worksOn busy
    have buffer : p.input.buffer = some id' := works.buffer
    have other : id' ≠ id := fun same => spares .read (same ▸ works)
    have others : p.input.buffer ≠ some id := buffer ▸ fun same => other (Option.some.inj same)
    cases terminator : isTerminator byte with
    | true =>
      rw [receive_terminator reading s terminator]
      exact buffer_completeRead_of_ne others
    | false =>
      have stored : (s.modifyBuffer id' (·.store p.input.done byte)).buffer id = s.buffer id :=
        (s.buffer_modifyBuffer id' id _).trans (if_neg other)
      rw [receive_plain reading buffer s terminator]
      simp only []
      split
      · exact Eq.trans (buffer_completeRead_of_ne others) stored
      · exact stored
  · rw [receive_quiet reading]

theorem buffer_outputInterrupt_of_spares (settled : p.Settled) (spares : p.Spares id) :
    (p.outputInterrupt s).2.buffer id = s.buffer id := by
  unfold outputInterrupt
  split
  · rfl
  rename_i writing
  have busy : p.status = Direction.write.status := Decidable.not_not.mp writing
  obtain ⟨id', works⟩ := settled.worksOn busy
  split
  · rfl
  · refine buffer_completeWrite_of_ne fun buffer => spares .write ⟨works.status, buffer⟩

theorem buffer_handleInterrupt_of_spares (settled : p.Settled) (spares : p.Spares id) :
    (p.handleInterrupt s).2.2.buffer id = s.buffer id := by
  by_cases isOpen : p.isOpen = true
  · have fetched := GoesOn.frame p (p.fetch .identify).2.uart p.ring s
    have settled' : (p.fetch .identify).2.Settled := fetched.settled settled
    have spares' : (p.fetch .identify).2.Spares id :=
      fun direction works => spares direction (fetched.worksOn.mp works)
    rw [handleInterrupt_eq isOpen]
    cases InterruptCause.decode (p.fetch .identify).1 with
    | none => rfl
    | some cause =>
      cases cause with
      | modemStatus | lineStatus => rfl
      | transmitterEmpty => exact buffer_outputInterrupt_of_spares settled' spares'
      | receivedData =>
        simp only [serve, inputInterrupt_eq]
        exact buffer_receive_of_spares settled' spares' _
  · unfold SerialPort.handleInterrupt
    rw [if_neg isOpen]

/-! ### Any number of interrupts -/

theorem base_receive (p : SerialPort) (s : Shared) (byte : UInt8) :
    (p.receive s byte).1.base = p.base := by
  unfold receive
  split
  · rfl
  · split
    · rfl
    · simp only []
      split <;> rfl

theorem Ready.handleInterrupt (ready : p.Ready) (s : Shared) :
    (p.handleInterrupt s).2.1.Ready := by
  rcases handleInterrupt_cases ready s with ⟨undisturbed, entered, passes⟩ |
    ⟨byte, uart, passes, handled⟩
  · exact ready.passes undisturbed.base passes
  · rw [handled]
    exact ready.passes (p.base_receive s byte) passes

/-- A port on which a device and the handler of its interrupt work. -/
structure AtWork (e : FlagId) (p : SerialPort) : Prop extends Ready p where
  settled : p.Settled
  flagged : p.Flagged e

/-- Some interrupts are taken, one after the other. -/
inductive Interrupts : SerialPort → Shared → SerialPort → Shared → Prop where
  | nothing (p : SerialPort) (s : Shared) : Interrupts p s p s
  | next {p p' : SerialPort} {s s' : Shared}
      (rest : Interrupts (p.handleInterrupt s).2.1 (p.handleInterrupt s).2.2 p' s') :
      Interrupts p s p' s'

theorem interrupts_handleInterrupt (p : SerialPort) (s : Shared) :
    Interrupts p s (p.handleInterrupt s).2.1 (p.handleInterrupt s).2.2 := .next (.nothing _ _)

theorem interrupts_serviceUpTo (p : SerialPort) (s : Shared) (most : Nat) :
    Interrupts p s (p.serviceUpTo s most).2.1 (p.serviceUpTo s most).2.2 := by
  induction most generalizing p s with
  | zero => exact .nothing p s
  | succ most ih =>
    rw [serviceUpTo]
    split
    · exact .next (ih _ _)
    · exact .nothing p s

namespace Interrupts

theorem atWork (h : Interrupts p s p' s') (work : AtWork e p) : AtWork e p' := by
  induction h with
  | nothing => exact work
  | @next p _ s _ _ ih =>
    have serves := handleInterrupt_serves work.settled work.flagged s
    exact ih ⟨work.toReady.handleInterrupt s, serves.settled work.settled,
      serves.flagged work.flagged⟩

theorem serves (h : Interrupts p s p' s') (work : AtWork e p) : Serves e p p' s s' := by
  induction h with
  | nothing p s => exact Or.inl (GoesOn.refl p s)
  | @next p _ s _ _ ih =>
    have first := handleInterrupt_serves work.settled work.flagged s
    exact first.trans (ih ((interrupts_handleInterrupt p s).atWork work))

/-- While the driver has nothing to do, nothing is sent and no buffer changes. -/
theorem idle (h : Interrupts p s p' s') (work : AtWork e p) (idle : p.Idle) :
    p'.Idle ∧ s' = s ∧ p'.transmitted = p.transmitted := by
  induction h with
  | nothing p s => exact ⟨idle, rfl, rfl⟩
  | @next p _ s _ _ ih =>
    rcases handleInterrupt_serves work.settled work.flagged s with on | ⟨direction, id, ends⟩
    · obtain ⟨idle', same, sent⟩ :=
        ih ((interrupts_handleInterrupt p s).atWork work) (on.status.trans idle)
      have quiet : p.status ≠ .writing := by
        rw [show p.status = .idle from idle]
        nofun
      exact ⟨idle', same.trans (on.idle idle).1, sent.trans (transmitted_handleInterrupt quiet s)⟩
    · exact absurd idle ends.works.not_idle

/-- A buffer that the driver does not work with does not change. -/
theorem buffer_of_spares (h : Interrupts p s p' s') (work : AtWork e p) (spares : p.Spares id) :
    s'.buffer id = s.buffer id := by
  induction h with
  | nothing => rfl
  | @next p _ s _ _ ih =>
    have serves := handleInterrupt_serves work.settled work.flagged s
    exact (ih ((interrupts_handleInterrupt p s).atWork work) (serves.spares spares)).trans
      (buffer_handleInterrupt_of_spares work.settled spares)

end Interrupts

/-! ### A transfer -/

/-- The bytes of this transfer are sent behind what was sent before, and nothing else is: those of a
write, and none for a read. -/
def Carries (before : List UInt8) (direction : Direction) (id : BufferId) (b : Buffer)
    (p : SerialPort) (s : Shared) : Prop :=
  match direction with
  | .read => p.status ≠ .writing ∧ p.transmitted = before
  | .write => Sending before id b p s ∨ Sent before id b p s

/-- What else happens on the line, and to other buffers, does not matter. -/
theorem Carries.frame (h : Carries before direction id b p s) {uart : Uart}
    (same : uart.transmitted = p.uart.transmitted) (held : s'.buffer id = s.buffer id) :
    Carries before direction id b { p with uart } s' := by
  cases direction with
  | read => exact ⟨h.1, (congrArg Array.toList same).trans h.2⟩
  | write =>
    rcases h with sending | sent
    · exact Or.inl { sending.frame p.ring same with held := held.trans sending.held }
    · exact Or.inr ⟨sent.idle, held.trans sent.held, sent.room,
        (congrArg Array.toList same).trans sent.sent⟩

/-- Until the driver has nothing to do, it is at this transfer. -/
theorem Carries.status (h : Carries before direction id b p s) (busy : ¬ p.Idle) :
    p.status = direction.status := by
  cases direction with
  | read =>
    cases status : p.status with
    | idle => exact absurd status busy
    | reading => rfl
    | writing => exact absurd status h.1
  | write =>
    rcases h with sending | sent
    · exact sending.works.status
    · exact absurd sent.idle busy

theorem Carries.handleInterrupt (work : AtWork e p) (h : Carries before direction id b p s) :
    Carries before direction id b (p.handleInterrupt s).2.1 (p.handleInterrupt s).2.2 := by
  have serves := handleInterrupt_serves work.settled work.flagged s
  cases direction with
  | read =>
    obtain ⟨quiet, sent⟩ := h
    refine ⟨?_, (transmitted_handleInterrupt quiet s).trans sent⟩
    rcases serves with on | ⟨direction, id', ends⟩
    · rw [on.status]
      exact quiet
    · rw [show _ = DeviceStatus.idle from ends.idle]
      nofun
  | write =>
    rcases h with sending | sent
    · exact sending.handleInterrupt work.toReady
    · obtain ⟨idle, same, nothing⟩ := (interrupts_handleInterrupt p s).idle work sent.idle
      refine Or.inr ⟨idle, ?_, sent.room, nothing.trans sent.sent⟩
      rw [same]
      exact sent.held

theorem Interrupts.carries (h : Interrupts p s p' s') (work : AtWork e p)
    (carries : Carries before direction id b p s) : Carries before direction id b p' s' := by
  induction h with
  | nothing => exact carries
  | @next p _ s _ _ ih =>
    exact ih ((interrupts_handleInterrupt p s).atWork work) (carries.handleInterrupt work)

/-- A transfer that the driver accepts is carried from its start. No other buffer changes. -/
theorem transfer_carries (ready : p.Ready) (done : p.transfer s direction id = .ok (p', s')) :
    p'.Ready ∧ Carries p.transmitted direction id (s.buffer id) p' s' ∧
      ∀ id', id ≠ id' → s'.buffer id' = s.buffer id' := by
  cases direction with
  | read =>
    obtain ⟨count, drained, -, -, outcome⟩ := read_ok done
    have others : ∀ id', id ≠ id' →
        ((p.clearEvent s).setBuffer id drained.buffer).buffer id' = s.buffer id' := by
      intro id' other
      rw [Shared.buffer_setBuffer, if_neg other, buffer_clearEvent]
    rcases outcome with ⟨-, rfl, rfl⟩ | ⟨-, rfl, rfl⟩
    · exact ⟨ready.passes rfl (.quiet rfl rfl rfl rfl rfl), ⟨nofun, rfl⟩, others⟩
    · refine ⟨ready.passes rfl (.quiet rfl rfl rfl rfl rfl), ⟨nofun, rfl⟩, fun id' other => ?_⟩
      have kept : (p.begun id count drained).input.buffer ≠ some id' :=
        fun same => other (Option.some.inj same)
      exact (buffer_completeRead_of_ne kept).trans (others id' other)
  | write =>
    obtain ⟨count, -, rfl, -⟩ := write_ok done
    obtain ⟨sending, rfl⟩ := write_sending ready done
    refine ⟨ready.passes rfl (sent_passes ready id count _), Or.inl sending, fun id' _ => ?_⟩
    exact buffer_clearEvent p s id'

end SerialPort

end TrapKernel
