import TrapKernel.Proofs.Serial.Receive

/-!
# What is transmitted

Only two things that the driver does send a byte: the start of a write, and an interrupt that finds
the transmitter empty while bytes of the write are left. So nothing is sent while a port does not
write, and a write that is `Sending` has sent the first bytes of its buffer, each of them once and at
least one of them, until it is `Sent`.
-/

namespace TrapKernel

namespace Uart

variable {u : Uart} {r : Register}

@[simp] theorem transmitted_readRegister (u : Uart) (r : Register) :
    (u.readRegister r).2.transmitted = u.transmitted := by
  cases r with
  | data | enable | identify =>
    simp only [readRegister]
    repeat' split
    all_goals rfl
  | lineControl | modemControl | lineStatus | modemStatus | scratch => rfl

@[simp] theorem transmitted_inb (u : Uart) (port : UInt16) :
    (u.inb port).2.transmitted = u.transmitted := by
  unfold inb
  split
  · rfl
  · split
    · exact u.transmitted_readRegister _
    · rfl

/-- Acknowledging an interrupt sends nothing. -/
@[simp] theorem transmitted_acknowledge (u : Uart) :
    (u.outb picCommandPort endOfInterrupt).transmitted = u.transmitted := by
  rw [outb, if_neg (by decide), if_pos rfl, if_pos rfl]

/-- Only the data register leads to the line. -/
theorem transmitted_writeRegister (u : Uart) (value : UInt8) (other : r ≠ .data) :
    (u.writeRegister value r).transmitted = u.transmitted := by
  cases r with
  | data => exact absurd rfl other
  | enable =>
    simp only [writeRegister]
    split <;> rfl
  | identify | lineControl | modemControl | lineStatus | modemStatus | scratch => rfl

end Uart

namespace SerialPort

variable {p p' : SerialPort} {s s' : Shared} {e : FlagId} {id : BufferId} {b : Buffer}
  {before : List UInt8} {r : Register} {direction : Direction}

/-- The bytes that were transmitted. -/
def transmitted (p : SerialPort) : List UInt8 := p.uart.transmitted.toList

/-! ### Registers -/

@[simp] theorem transmitted_fetch (p : SerialPort) (r : Register) :
    (p.fetch r).2.transmitted = p.transmitted :=
  congrArg Array.toList (p.uart.transmitted_inb _)

@[simp] theorem transmitted_touch (p : SerialPort) (r : Register) :
    (p.touch r).transmitted = p.transmitted := p.transmitted_fetch r

@[simp] theorem transmitted_acknowledge (p : SerialPort) :
    (p.onUart (·.outb picCommandPort endOfInterrupt)).transmitted = p.transmitted :=
  congrArg Array.toList p.uart.transmitted_acknowledge

theorem Placed.transmitted_put (h : p.Placed) (value : UInt8) (other : r ≠ .data) :
    (p.put r value).transmitted = p.transmitted := by
  rw [h.put_eq]
  exact congrArg Array.toList (p.uart.transmitted_writeRegister value other)

theorem Ready.transmitted_put_data (h : p.Ready) (value : UInt8) :
    (p.put .data value).transmitted = p.transmitted ++ [value] := by
  rw [h.put_eq, Uart.writeRegister, h.closed]
  simp [transmitted, Uart.transmit]

/-! ### Opening -/

/-- Which causes may interrupt is not sent. -/
theorem transmitted_reenable (ready : p.Ready) (f : UInt8 → UInt8) :
    ((p.fetch .enable).2.put .enable (f (p.fetch .enable).1)).transmitted = p.transmitted := by
  have fetched : (p.fetch .enable).2.Ready := ready.passes rfl ready.fetch_enable
  rw [fetched.transmitted_put (r := .enable) _ (by decide), transmitted_fetch]

theorem transmitted_sent (ready : p.Ready) (id : BufferId) (count : Nat) (byte : UInt8) :
    (p.sent id count byte).transmitted = p.transmitted ++ [byte] := by
  let q : SerialPort := { p.onUart (·.disableInterrupts) with
    status := .writing, output := ⟨some id, count, 1⟩ }
  have ready' : q.Ready := ready.passes rfl (.quiet rfl rfl rfl rfl rfl)
  have data : (q.put .data byte).Ready := ready'.passes rfl (ready'.put_data byte)
  have enabled := transmitted_reenable data (· ||| transmitterEmptyBit)
  have unmasked (q : SerialPort) :
      (q.onUart (·.enableInterrupts)).transmitted = q.transmitted := rfl
  rw [sent, unmasked]
  exact enabled.trans (ready'.transmitted_put_data byte)

/-! ### Interrupts -/

/-- A port that writes nothing sends nothing. -/
theorem transmitted_serve (quiet : p.status ≠ .writing) (s : Shared)
    (cause : Option InterruptCause) : (p.serve s cause).1.transmitted = p.transmitted := by
  cases cause with
  | none => rfl
  | some cause =>
    cases cause with
    | modemStatus | lineStatus => exact p.transmitted_touch _
    | transmitterEmpty => rw [serve, outputInterrupt, if_pos quiet]
    | receivedData =>
      rw [serve, inputInterrupt_eq]
      exact p.transmitted_touch .data

theorem transmitted_handleInterrupt (quiet : p.status ≠ .writing) (s : Shared) :
    (p.handleInterrupt s).2.1.transmitted = p.transmitted := by
  by_cases isOpen : p.isOpen = true
  · have quiet' : (p.fetch .identify).2.status ≠ .writing := quiet
    rw [handleInterrupt_eq isOpen, transmitted_acknowledge, transmitted_serve quiet',
      transmitted_fetch]
  · unfold SerialPort.handleInterrupt
    rw [if_neg isOpen]
    exact p.transmitted_acknowledge

/-! ### A write -/

/-- A write from this buffer is under way. Its first bytes, one at least, were sent behind what was
sent before. -/
structure Sending (before : List UInt8) (id : BufferId) (b : Buffer) (p : SerialPort) (s : Shared) :
    Prop where
  works : p.WorksOn .write id
  requested : p.output.requested = b.count
  room : b.count ≤ b.capacity
  held : s.buffer id = b
  begun : 0 < p.output.done
  most : p.output.done ≤ b.count
  sent : p.transmitted = before ++ b.data.take p.output.done

/-- A write from this buffer has ended. All its bytes were sent, and the count is that of the bytes
that were sent. -/
structure Sent (before : List UInt8) (id : BufferId) (b : Buffer) (p : SerialPort) (s : Shared) :
    Prop where
  idle : p.Idle
  held : s.buffer id = b
  room : b.count ≤ b.capacity
  sent : p.transmitted = before ++ b.contents

theorem buffer_clearEvent (p : SerialPort) (s : Shared) (id : BufferId) :
    (p.clearEvent s).buffer id = s.buffer id := by
  unfold clearEvent Shared.modifyFlag?
  cases p.event with
  | none => rfl
  | some e => rfl

/-- A write that starts has sent its first byte. -/
theorem write_sending (ready : p.Ready) (done : p.write s id = .ok (p', s')) :
    Sending p.transmitted id (s.buffer id) p' s' ∧ s' = p.clearEvent s := by
  obtain ⟨count, checked, rfl, rfl⟩ := write_ok done
  obtain ⟨-, -, rfl, pos, room⟩ := checkTransfer_ok checked
  refine ⟨⟨⟨rfl, rfl⟩, rfl, room, ?_, Nat.one_pos, pos, ?_⟩, rfl⟩
  · exact buffer_clearEvent p s id
  · obtain ⟨first, rest, data⟩ := List.exists_cons_of_length_pos (Nat.lt_of_lt_of_le pos room)
    rw [transmitted_sent ready, Buffer.byte?, data]
    rfl

/-- The transmitter is empty, and bytes of the write are left. -/
theorem outputInterrupt_next {next : UInt8} (works : p.WorksOn .write id)
    (left : p.output.done < p.output.requested)
    (byte : (s.buffer id).byte? p.output.done = some next) :
    p.outputInterrupt s = ({ p.put .data next with
      output := { p.output with done := p.output.done + 1 } }, s) := by
  have status : p.status = .writing := works.status
  have buffer : p.output.buffer = some id := works.buffer
  have unsatisfied : p.output.isSatisfied = false := decide_eq_false (Nat.not_le_of_lt left)
  have value :
      (p.output.buffer.bind fun id => (s.buffer id).byte? p.output.done).getD 0 = next := by
    rw [buffer, Option.bind_some, byte, Option.getD_some]
  rw [outputInterrupt, if_neg (Decidable.not_not.mpr status), unsatisfied, value]
  rfl

/-- The transmitter is empty, and no byte of the write is left. -/
theorem outputInterrupt_last (works : p.WorksOn .write id)
    (all : p.output.requested ≤ p.output.done) :
    p.outputInterrupt s =
      (((p.completeWrite s).1.fetch .enable).2.put .enable
        (((p.completeWrite s).1.fetch .enable).1 &&& ~~~transmitterEmptyBit),
        (p.completeWrite s).2) := by
  have status : p.status = .writing := works.status
  have satisfied : p.output.isSatisfied = true := decide_eq_true all
  rw [outputInterrupt, if_neg (Decidable.not_not.mpr status), satisfied]
  rfl

/-- The buffer of a write that ends tells how many bytes were sent. -/
theorem buffer_completeWrite (buffer : p.output.buffer = some id) :
    (p.completeWrite s).2.buffer id = (s.buffer id).setCount p.output.done := by
  rw [completeWrite, publish_eq buffer]
  simp only [buffer_raise, Shared.buffer_modifyBuffer, if_true]

namespace Sending

/-- The write does not depend on the line, as long as nothing is sent, or on the ring. -/
theorem frame (h : Sending before id b p s) {uart : Uart} (ring : Ring ringCapacity)
    (same : uart.transmitted = p.uart.transmitted) :
    Sending before id b { p with uart, ring } s where
  works := ⟨h.works.status, h.works.buffer⟩
  requested := h.requested
  room := h.room
  held := h.held
  begun := h.begun
  most := h.most
  sent := (congrArg Array.toList same).trans h.sent

/-- Some bytes of the write were sent, and those are its first ones. -/
theorem part (h : Sending before id b p s) :
    ∃ part, part ≠ [] ∧ part <+: b.contents ∧ p.transmitted = before ++ part := by
  refine ⟨b.data.take p.output.done, ?_, ?_, h.sent⟩
  · have inside : p.output.done ≤ b.data.length := Nat.le_trans h.most h.room
    rw [← List.length_pos_iff, List.length_take_of_le inside]
    exact h.begun
  · exact List.take_prefix_take_left h.most

/-- An interrupt that finds the transmitter empty sends the next byte, or ends the write. -/
theorem outputInterrupt (ready : p.Ready) (h : Sending before id b p s) :
    Sending before id b (p.outputInterrupt s).1 (p.outputInterrupt s).2 ∨
      Sent before id b (p.outputInterrupt s).1 (p.outputInterrupt s).2 := by
  by_cases left : p.output.done < b.count
  · have inside : p.output.done < b.data.length := Nat.lt_of_lt_of_le left h.room
    have byte : (s.buffer id).byte? p.output.done = some b.data[p.output.done] := by
      rw [h.held, Buffer.byte?, List.getElem?_eq_getElem inside]
    rw [outputInterrupt_next h.works (h.requested ▸ left) byte]
    refine Or.inl ⟨⟨h.works.status, h.works.buffer⟩, h.requested, h.room, h.held, Nat.succ_pos _,
      left, ?_⟩
    show (p.put .data _).transmitted = before ++ b.data.take (p.output.done + 1)
    rw [ready.transmitted_put_data, h.sent, List.append_assoc, List.take_append_getElem inside]
  · have all : p.output.done = b.count := Nat.le_antisymm h.most (Nat.le_of_not_lt left)
    have ready' : (p.completeWrite s).1.Ready := ready.passes rfl (.quiet rfl rfl rfl rfl rfl)
    rw [outputInterrupt_last h.works (h.requested ▸ Nat.le_of_not_lt left)]
    refine Or.inr ⟨rfl, ?_, h.room, ?_⟩
    · rw [buffer_completeWrite h.works.buffer, h.held, all]
      rfl
    · rw [transmitted_reenable ready' (· &&& ~~~transmitterEmptyBit), Buffer.contents, ← all]
      exact h.sent

/-- Any other interrupt does not concern the write. -/
theorem serve (ready : p.Ready) (h : Sending before id b p s) (cause : Option InterruptCause) :
    Sending before id b (p.serve s cause).1 (p.serve s cause).2 ∨
      Sent before id b (p.serve s cause).1 (p.serve s cause).2 := by
  cases cause with
  | none => exact Or.inl h
  | some cause =>
    cases cause with
    | modemStatus | lineStatus => exact Or.inl (h.frame p.ring (p.uart.transmitted_inb _))
    | transmitterEmpty => exact h.outputInterrupt ready
    | receivedData =>
      have notReading : p.status ≠ .reading := by
        rw [show p.status = .writing from h.works.status]
        nofun
      rw [SerialPort.serve, inputInterrupt_eq, receive_quiet notReading]
      exact Or.inl (h.frame _ (p.uart.transmitted_inb _))

theorem handleInterrupt (ready : p.Ready) (h : Sending before id b p s) :
    Sending before id b (p.handleInterrupt s).2.1 (p.handleInterrupt s).2.2 ∨
      Sent before id b (p.handleInterrupt s).2.1 (p.handleInterrupt s).2.2 := by
  by_cases isOpen : p.isOpen = true
  · have ready' : (p.fetch .identify).2.Ready := ready.passes rfl ready.fetch_identify.1
    have fetched : Sending before id b (p.fetch .identify).2 s :=
      h.frame p.ring (p.uart.transmitted_inb _)
    rw [handleInterrupt_eq isOpen]
    rcases fetched.serve ready' (InterruptCause.decode (p.fetch .identify).1) with sending | sent
    · exact Or.inl (sending.frame _ (Uart.transmitted_acknowledge _))
    · refine Or.inr ⟨sent.idle, sent.held, sent.room, ?_⟩
      exact (transmitted_acknowledge _).trans sent.sent
  · unfold SerialPort.handleInterrupt
    rw [if_neg isOpen]
    exact Or.inl (h.frame p.ring p.uart.transmitted_acknowledge)

end Sending

end SerialPort

end TrapKernel
